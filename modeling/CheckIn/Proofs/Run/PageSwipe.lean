import CheckIn.Proofs.Run.Polling
import CheckIn.Proofs.Screen.Center
import Mathlib.Data.List.Chain

/-! Swiping pages. The phone is asked for the size of its screen, and then swipes between two points
of it for as often as the step says. A swipe is over after its duration and the margin at the
earliest, so the next one begins no sooner than that after it. The lower end is at three times the
height, in 32 bits, divided by four. It is where it should be exactly if three times the height is a
number of 32 bits, and else the program has found before the swipes that it is not. -/

namespace CheckIn

/-- The action that swipes pages up or down. -/
def Action.paging (up : Bool) (count : UInt32) (duration : Nat) : Action :=
  if up then .swipeUp count duration else .swipeDown count duration

namespace Run

open Process

open Screen (Point Size Fits)

open StepRunner (pageEnds)

variable {stop : Option Nat} {before after : Nat} {log : Log} {r : StepRunner} {duration : Nat}
  {result : Except StepError Unit}

/-! ### The ends of a swipe -/

/-- The swipe of a page on a screen of a size. -/
def pageCall (up : Bool) (size : Size) (duration : Nat) : Phone.Call :=
  let (low, high) := pageEnds size
  if up then .swipe low high duration else .swipe high low duration

def IsOn (p : Point) (size : Size) : Prop :=
  (0 ≤ p.x.toInt ∧ p.x.toInt < size.width.toInt) ∧
    0 ≤ p.y.toInt ∧ p.y.toInt < size.height.toInt

section Numbers

variable {a b : Int32}

theorem toInt_div_of_pos (ha : 0 < a.toInt) (hb : b ≠ -1) : (a / b).toInt = a.toInt / b.toInt := by
  rw [Int32.toInt_div_of_ne_right _ _ hb, Int.tdiv_eq_ediv_of_nonneg ha.le]

theorem toInt_triple (ha : 0 < a.toInt) : (a * 3).toInt =
    if Fits (3 * a.toInt) then 3 * a.toInt else 3 * a.toInt - 4294967296 := by
  have hlt := a.toInt_lt
  rw [Int32.toInt_mul, show (3 : Int32).toInt = 3 from rfl, Int.bmod_def]
  by_cases hfits : Fits (3 * a.toInt)
  · have hhigh := hfits.2
    rw [if_pos hfits]
    omega
  · have hhigh : 2147483648 ≤ 3 * a.toInt := by
      by_contra hlow
      exact hfits ⟨by omega, by omega⟩
    rw [if_neg hfits]
    omega

theorem toInt_three_quarters (ha : 0 < a.toInt) (hfits : Fits (3 * a.toInt)) :
    (a * 3 / 4).toInt = 3 * a.toInt / 4 := by
  have htriple : (a * 3).toInt = 3 * a.toInt := (toInt_triple ha).trans (if_pos hfits)
  rw [toInt_div_of_pos (by omega) (by decide), htriple]
  rfl

theorem toInt_three_quarters_eq_iff (ha : 0 < a.toInt) :
    (a * 3 / 4).toInt = 3 * a.toInt / 4 ↔ Fits (3 * a.toInt) := by
  refine ⟨fun heq => ?_, toInt_three_quarters ha⟩
  by_contra hwraps
  -- What has wrapped around is too small by a quarter of 2³².
  have hwrapped : (a * 3 / 4).toInt = (3 * a.toInt - 4294967296).tdiv 4 := by
    rw [Int32.toInt_div_of_ne_right _ _ (by decide), toInt_triple ha, if_neg hwraps]
    rfl
  have hbounds := Screen.tdiv_bounds (3 * a.toInt - 4294967296) (k := 4) (by decide)
  omega

end Numbers

/-- Where a page is swiped on a screen of a size. -/
structure CrossesPage (size : Size) : Prop where
  low_x : (pageEnds size).1.x.toInt = size.width.toInt / 2
  high_x : (pageEnds size).2.x.toInt = size.width.toInt / 2
  high_y : (pageEnds size).2.y.toInt = size.height.toInt / 4
  high_on : IsOn (pageEnds size).2 size
  low_y_iff : (pageEnds size).1.y.toInt = 3 * size.height.toInt / 4 ↔ Fits (3 * size.height.toInt)
  low_on : Fits (3 * size.height.toInt) → IsOn (pageEnds size).1 size

theorem crossesPage {size : Size} (hwidth : 0 < size.width) (hheight : 0 < size.height) :
    CrossesPage size := by
  have hw : 0 < size.width.toInt := Int32.lt_iff_toInt_lt.mp hwidth
  have hh : 0 < size.height.toInt := Int32.lt_iff_toInt_lt.mp hheight
  have hx : (size.width / 2).toInt = size.width.toInt / 2 := toInt_div_of_pos hw (by decide)
  have hhigh : (size.height / 4).toInt = size.height.toInt / 4 := toInt_div_of_pos hh (by decide)
  refine ⟨hx, hx, hhigh, ?_, toInt_three_quarters_eq_iff hh, fun hfits => ?_⟩
  · show (0 ≤ (size.width / 2).toInt ∧ (size.width / 2).toInt < size.width.toInt) ∧
      0 ≤ (size.height / 4).toInt ∧ (size.height / 4).toInt < size.height.toInt
    omega
  · have hlow := toInt_three_quarters hh hfits
    show (0 ≤ (size.width / 2).toInt ∧ (size.width / 2).toInt < size.width.toInt) ∧
      0 ≤ (size.height * 3 / 4).toInt ∧ (size.height * 3 / 4).toInt < size.height.toInt
    omega

/-! ### Swipes -/

/-- A part of a step succeeds unless the run is stopped or the phone fails. -/
inductive Concludes (stop : Option Nat) (log : Log) : Except StepError Unit → (after : Nat) → Prop
  | done {after : Nat} : Concludes stop log (.ok ()) after
  | stopped {after : Nat} : raised stop after = true → Concludes stop log (.error .stopped) after
  | failed {after made met : Nat} {c : Phone.Call} {failure : Failure} :
      ⟨made, .call c, .error failure, met⟩ ∈ log →
      Concludes stop log (.error (.ofFailure failure)) after

theorem Concludes.mono {log' : Log} (h : Concludes stop log result after) (hlog : log ⊆ log') :
    Concludes stop log' result after := by
  cases h with
  | done => exact .done
  | stopped hraised => exact .stopped hraised
  | failed hmem => exact .failed (hlog hmem)

theorem concludes_of_check (h : Goes stop (Attempt.check true).run before log result after) :
    Concludes stop log result after := by
  obtain ⟨-, rfl, rfl | ⟨-, hraised, rfl⟩⟩ := Lookup.goes_check_cases h
  · exact .done
  · exact .stopped hraised

theorem concludes_of_pause
    (h : Goes stop (Attempt.pause duration true).run before log result after) :
    Concludes stop log result after := by
  obtain ⟨-, ⟨rfl, -⟩ | ⟨rfl, -, t, rfl, -, rfl⟩⟩ := Lookup.goes_pause_cases h
  · exact .done
  · exact .stopped (raised_some.mpr (Nat.le_max_right ..))

/-- A swipe is issued at once. If it succeeds then with the pause after it its duration and the
margin are over. -/
theorem goes_swipe {start finish : Point}
    (h : Goes stop (r.swipe start finish duration).run before log result after) :
    (∃ x : Exchange, calls log = [x] ∧ x.made = before ∧
        x.request = .call (.swipe start finish duration)) ∧
      Concludes stop log result after ∧
      (result = .ok () → before + (duration + r.swipeSettle) ≤ after) := by
  obtain ⟨log₁, rfl, hswipe⟩ := goes_now_bind_run.mp h
  rw [calls_cons_of_quiet (by trivial)]
  rcases goes_bind_run.mp hswipe with ⟨e, rfl, hcall⟩ | ⟨log₂, _, swiped, log₃, rfl, hcall, hrest⟩
  · obtain ⟨answer, rfl, -, hanswer⟩ := goes_call.mp hcall
    cases answer with
    | ok _ => cases hanswer
    | error failure =>
      cases hanswer
      exact ⟨⟨_, rfl, rfl, rfl⟩,
        .failed (List.mem_cons_of_mem _ (List.mem_singleton_self _)), nofun⟩
  · obtain ⟨answer, rfl, hle, -⟩ := goes_call.mp hcall
    obtain ⟨log₄, rfl, hpause⟩ := goes_now_bind_run.mp hrest
    have hquiet : calls (⟨swiped, .now, swiped, swiped⟩ :: log₄) = [] :=
      (calls_cons_of_quiet (by trivial)).trans (Lookup.goes_pause_cases hpause).1
    refine ⟨⟨⟨before, .call _, answer, swiped⟩, ?_, rfl, rfl⟩, ?_, ?_⟩
    · rw [calls_append, hquiet]
      rfl
    · exact (concludes_of_pause hpause).mono fun x hx => by simp [hx]
    · rintro rfl
      obtain ⟨-, ⟨-, rfl, -⟩ | ⟨⟨⟩, -⟩⟩ := Lookup.goes_pause_cases hpause
      omega

/-- Swipes one after the other. -/
structure Swipes (stop : Option Nat) (r : StepRunner) (call : Phone.Call) (duration count : Nat)
    (log : Log) (result : Except StepError Unit) (after : Nat) : Prop where
  issued : (calls log).map (·.request) <+: List.replicate count (.call call)
  apart : (calls log).IsChain fun x y => x.made + (duration + r.swipeSettle) ≤ y.made
  all : result = .ok () → (calls log).map (·.request) = List.replicate count (.call call)
  concludes : Concludes stop log result after

theorem Swipes.cons {call : Phone.Call} {count : Nat} {log' : Log} {x : Exchange}
    (h : Swipes stop r call duration count log' result after) (hcalls : calls log = [x])
    (hrequest : x.request = .call call)
    (hapart : ∀ y ∈ calls log', x.made + (duration + r.swipeSettle) ≤ y.made) :
    Swipes stop r call duration (count + 1) (log ++ log') result after := by
  have hcons : calls (log ++ log') = x :: calls log' := by
    rw [calls_append, hcalls, List.singleton_append]
  refine ⟨?_, ?_, fun hok => ?_, h.concludes.mono (List.subset_append_right ..)⟩
  · rw [hcons, List.map_cons, hrequest, List.replicate_succ]
    exact List.cons_prefix_cons.mpr ⟨rfl, h.issued⟩
  · rw [hcons]
    exact List.isChain_cons.mpr ⟨fun y hy => hapart y (List.mem_of_mem_head? hy), h.apart⟩
  · rw [hcons, List.map_cons, hrequest, h.all hok, List.replicate_succ]

theorem swipes_of_goes {start finish : Point} {count : Nat}
    (h : Goes stop (r.swipeTimes start finish duration count).run before log result after) :
    Swipes stop r (.swipe start finish duration) duration count log result after := by
  induction count generalizing before log with
  | zero =>
    obtain ⟨rfl, rfl, rfl⟩ := h
    exact ⟨List.nil_prefix, .nil, fun _ => rfl, .done⟩
  | succ count ih =>
    rcases goes_bind_run.mp h with ⟨e, rfl, hcheck⟩ | ⟨log₁, _, between, log₂, rfl, hcheck, hrest⟩
    · have hnone := (Lookup.goes_check_cases hcheck).1
      exact ⟨by simp [hnone], by simp [hnone], nofun, concludes_of_check hcheck⟩
    have hnone := (Lookup.goes_check_cases hcheck).1
    rcases goes_bind_run.mp hrest with ⟨e, rfl, hswipe⟩ | ⟨log₃, _, next, log₄, rfl, hswipe, hagain⟩
    · obtain ⟨⟨x, hx, -, hrequest⟩, hconcludes, -⟩ := goes_swipe hswipe
      have hcalls : calls (log₁ ++ log₂) = [x] := by rw [calls_append, hnone, hx, List.nil_append]
      refine ⟨?_, ?_, nofun, hconcludes.mono (List.subset_append_right ..)⟩
      · rw [hcalls, List.map_singleton, hrequest, List.replicate_succ]
        exact List.cons_prefix_cons.mpr ⟨rfl, List.nil_prefix⟩
      · rw [hcalls]
        exact .singleton x
    · obtain ⟨⟨x, hx, rfl, hrequest⟩, -, hspent⟩ := goes_swipe hswipe
      have hcalls : calls (log₁ ++ log₃) = [x] := by rw [calls_append, hnone, hx, List.nil_append]
      rw [← List.append_assoc]
      -- What is issued later begins after the pause of this swipe.
      refine (ih hagain).cons hcalls hrequest fun y hy => ?_
      exact (hspent rfl).trans (hagain.meets y (mem_calls.mp hy).1).2.1

/-- The screen is measured, and then pages are swiped over it. If three times the height does not
fit its word, this is found before the first swipe. -/
inductive SwipesPages (stop : Option Nat) (r : StepRunner) (up : Bool) (count : UInt32)
    (duration before : Nat) : Log → Except StepError Unit → (after : Nat) → Prop
  | unmeasured {failure : Failure} {after : Nat} :
      SwipesPages stop r up count duration before
        [⟨before, .call .screenSize, .error failure, after⟩] (.error (.ofFailure failure)) after
  | measured {size : Size} {measured after : Nat} {log : Log} {result : Except StepError Unit} :
      Swipes stop r (pageCall up size duration) duration count.toNat log result after →
      SwipesPages stop r up count duration before
        (⟨before, .call .screenSize, .ok size, measured⟩ ::
          (overflows (Fits (3 * size.height.toInt)) measured ++ log)) result after

theorem swipesPages_of_goes {up : Bool} {count : UInt32}
    (h : Goes stop (r.pageSwipe up count duration).run before log result after) :
    SwipesPages stop r up count duration before log result after := by
  rcases goes_bind_run.mp h with ⟨e, rfl, hcall⟩ | ⟨log₁, size, measured, log₂, rfl, hcall, hrest⟩
  · obtain ⟨answer, rfl, -, hanswer⟩ := goes_call.mp hcall
    cases answer with
    | ok _ => cases hanswer
    | error failure =>
      cases hanswer
      exact .unmeasured
  · obtain ⟨answer, rfl, -, hanswer⟩ := goes_call.mp hcall
    cases answer with
    | error _ => cases hanswer
    | ok size =>
      cases hanswer
      obtain ⟨log₃, rfl, hswipes⟩ := goes_checked_bind_run.mp hrest
      cases up with
      | true => exact .measured (swipes_of_goes hswipes)
      | false => exact .measured (swipes_of_goes hswipes)

/-- A step that swipes pages measures the screen and swipes as often as it says, unless the run is
stopped or the phone fails, and then so far. -/
theorem runStep_swipesPages (r : StepRunner) (task : Task) {step : Step} {up : Bool}
    {count : UInt32} (hstep : step.action = .ok (.paging up count duration)) (stop : Option Nat)
    (before : Nat) :
    Surely stop (fun _ => True) (r.runStep task step).run before ∧
      (∀ log result after, Goes stop (r.runStep task step).run before log result after →
        SwipesPages stop r up count duration before log result after) ∧
      ∀ size : Size, 0 < size.width → 0 < size.height → CrossesPage size := by
  have hrun : r.runStep task step = r.pageSwipe up count duration := by
    unfold StepRunner.runStep
    rw [hstep]
    cases up <;> rfl
  rw [hrun]
  have hasks : (r.pageSwipe up count duration).run.Asks (Meets stop)
      (Request.OfAction fun _ => False) :=
    r.pageSwipe_asks up count duration
  refine ⟨surely_of_no_overrun (hasks.mono ?_) fun _ _ _ _ => trivial,
    fun _ _ _ => swipesPages_of_goes, fun _ => crossesPage⟩
  rintro now q hq rfl
  exact hq

/-! ### A phone that swipes -/

theorem exists_goes_swipeTimes (r : StepRunner) (start finish : Point)
    (duration count before : Nat) : ∃ log after,
      Goes none (r.swipeTimes start finish duration count).run before log (.ok ()) after := by
  induction count generalizing before with
  | zero => exact ⟨[], before, rfl, rfl, rfl⟩
  | succ count ih =>
    let wait := duration + r.swipeSettle - (before - before)
    obtain ⟨log, after, hrest⟩ := ih (before + wait)
    have hswipe : Meets none before (.call (.swipe start finish duration)) (.ok ()) before :=
      Nat.le_refl before
    have hpause : Meets none before (.pause wait true) false (before + wait) := ⟨rfl, nofun⟩
    exact ⟨_, after, .ask ⟨rfl, rfl⟩ (.ask ⟨rfl, rfl⟩ (.ask hswipe (.ask ⟨rfl, rfl⟩
      (.ask hpause hrest))))⟩

theorem exists_goes_pageSwipe (r : StepRunner) (count : UInt32) (duration : Nat) {size : Size}
    (hfits : Fits (3 * size.height.toInt)) : ∃ log after,
      Goes none (r.pageSwipe true count duration).run 0
        (⟨0, .call .screenSize, .ok size, 0⟩ :: log) (.ok ()) after := by
  have hmeasure : Goes none (Attempt.call .screenSize).run 0 [⟨0, .call .screenSize, .ok size, 0⟩]
      (.ok size) 0 := goes_call.mpr ⟨.ok size, rfl, Nat.le_refl 0, rfl⟩
  obtain ⟨log, after, hrest⟩ := exists_goes_swipeTimes r (pageEnds size).1 (pageEnds size).2
    duration count.toNat 0
  refine ⟨log, after, goes_bind_run.mpr (.inr ⟨_, _, _, log, rfl, hmeasure, ?_⟩)⟩
  exact goes_checked_bind_run.mpr ⟨log, by rw [overflows_of_fits hfits]; rfl, hrest⟩

/-- No page is swiped on a screen so high that three times its height does not fit its word. -/
theorem pageSwipe_reaches_overflow (r : StepRunner) (up : Bool) (count : UInt32) (duration : Nat)
    {size : Size} (hwide : ¬Fits (3 * size.height.toInt)) : ∃ next,
      Reaches none (r.pageSwipe up count duration).run 0 [⟨0, .call .screenSize, .ok size, 0⟩]
        (.ask (I := interface) .overflow next) 0 := by
  have hmeasure : Meets none 0 (.call .screenSize) (.ok size) 0 := Nat.le_refl 0
  have hover {f : Unit → Attempt Unit} : ∃ next,
      (liftM (Part.checked (Fits (3 * size.height.toInt))) >>= f).run =
        .ask (I := interface) .overflow next := by
    unfold Part.checked
    rw [if_neg hwide]
    exact ⟨_, rfl⟩
  obtain ⟨next, hnext⟩ := hover
  exact ⟨next, .later hmeasure (hnext ▸ .here)⟩

/-- Two pages are swiped up. -/
theorem runStep_swipesPages_twice :
    let step : Step := ⟨"next pages", "swipe_up", .ok (.swipeUp 2 500)⟩
    let size : Size := ⟨1080, 2400⟩
    let swipe : Phone.Call := .swipe ⟨540, 1800⟩ ⟨540, 600⟩ 500
    step.action = .ok (.paging true 2 500) ∧ 0 < size.width ∧ 0 < size.height ∧
      IsOn ⟨540, 1800⟩ size ∧ ∃ log after,
        Goes none (Scheduler.standard.steps.runStep imageTask step).run 0
          (⟨0, .call .screenSize, .ok size, 0⟩ :: log) (.ok ()) after ∧
        (calls log).map (·.request) = [.call swipe, .call swipe] := by
  intro step size swipe
  have hstep : step.action = .ok (.paging true 2 500) := rfl
  obtain ⟨-, hswipes, hcrosses⟩ :=
    runStep_swipesPages Scheduler.standard.steps imageTask hstep none 0
  have hfits : Fits (3 * size.height.toInt) := by decide
  obtain ⟨log, after, hgoes⟩ := exists_goes_pageSwipe Scheduler.standard.steps 2 500 hfits
  have hends : pageEnds size = (⟨540, 1800⟩, ⟨540, 600⟩) := by decide
  have hcall : pageCall true size 500 = swipe := by rw [pageCall, hends]; rfl
  refine ⟨hstep, by decide, by decide, ?_, log, after, hgoes, ?_⟩
  · have hon := (hcrosses size (by decide) (by decide)).low_on hfits
    rwa [hends] at hon
  · cases hswipes _ _ _ hgoes with
    | measured hswipes =>
      rw [calls_append, calls_overflows, List.nil_append]
      exact hcall ▸ hswipes.all rfl

/-- On a screen so high that three times its height does not fit its word, the program ends with an
overflow, although the point from which to swipe is on the screen. -/
theorem pageSwipe_overflows :
    let step : Step := ⟨"next page", "swipe_up", .ok (.swipeUp 1 500)⟩
    let size : Size := ⟨1080, 1000000000⟩
    0 < size.width ∧ 0 < size.height ∧ IsOn ⟨540, 750000000⟩ size ∧ ∃ next,
      Reaches none (Scheduler.standard.steps.runStep imageTask step).run 0
        [⟨0, .call .screenSize, .ok size, 0⟩] (.ask (I := interface) .overflow next) 0 := by
  intro step size
  have hwide : ¬Fits (3 * size.height.toInt) := by decide
  have hon : IsOn ⟨540, 750000000⟩ size := ⟨by decide, by decide⟩
  obtain ⟨next, hreaches⟩ :=
    pageSwipe_reaches_overflow Scheduler.standard.steps true 1 500 hwide
  exact ⟨by decide, by decide, hon, next, hreaches⟩

end Run

end CheckIn

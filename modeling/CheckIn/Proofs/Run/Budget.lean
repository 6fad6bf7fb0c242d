import CheckIn.Proofs.Run.Targeting
import CheckIn.Proofs.Run.Tries
import Mathlib.Data.List.Chain

/-! Recognition with a budget. Whether the budget is spent is looked up after a detection, and the
pause that follows is made in full. So the last detection may begin after the budget, and so may the
tap at what it found, but it begins less than a pause after it, and no other comes then. -/

namespace CheckIn.Run

open Process

variable {stop : Option Nat} {before after : Nat} {log : Log}

/-- The detections that were begun in a log. -/
def detections (log : Log) : Log := callsOf Phone.Call.isDetect log

theorem detections_append (log₁ log₂ : Log) :
    detections (log₁ ++ log₂) = detections log₁ ++ detections log₂ :=
  callsOf_append ..

/-- If all calls of a log are detections, these are all that there are. -/
theorem detections_eq_calls (h : ∀ x ∈ calls log, x.call? = some .detect) :
    detections log = calls log := by
  rw [detections, callsOf_eq_filter]
  exact List.filter_eq_self.mpr fun x hx => by rw [h x hx]; rfl

namespace Recognition

variable {r : Recognition} {target text : String} {left attempts : Nat}

/-- A try that is not kept from it by the stop begins a detection. Another try comes after it only
if it was over before the time to give up, and then a pause later. -/
theorem goes_try_calls {giveUp : Option Nat} {result : Except StepError TextMatch}
    (h : Goes stop (r.tries target giveUp left attempts).run before log result after) :
    raised stop before = true ∧ calls log = [] ∨
      raised stop before = false ∧ ∃ x : Exchange, x.made = before ∧ x.call? = some .detect ∧
        (calls log = [x] ∨ ∃ left' log', left = left' + 1 ∧ (∀ t, giveUp = some t → x.met < t) ∧
          calls log = x :: calls log' ∧
          Goes stop (r.tries target giveUp left' (attempts + 1)).run (x.met + r.backoff) log'
            result after) := by
  cases trial_of_goes h with
  | stopped hraised => exact .inl ⟨hraised, rfl⟩
  | cut hlooks => exact .inr ⟨hlooks.calm, _, rfl, hlooks.call?_eq, .inl (hlooks.calls_eq _)⟩
  | found hlooks _ =>
    refine .inr ⟨hlooks.calm, _, rfl, hlooks.call?_eq, .inl ((hlooks.calls_eq _).trans ?_)⟩
    rw [calls_append, calls_overflows]
    rfl
  | missed hlooks _ _ => exact .inr ⟨hlooks.calm, _, rfl, hlooks.call?_eq, .inl (hlooks.calls_eq _)⟩
  | paused hlooks _ _ => exact .inr ⟨hlooks.calm, _, rfl, hlooks.call?_eq, .inl (hlooks.calls_eq _)⟩
  | @again answer met left' _ log' _ hlooks _ hleft hopen _ hagain =>
    exact .inr ⟨hlooks.calm, _, rfl, hlooks.call?_eq,
      .inr ⟨left', log', hleft, hopen, hlooks.calls_eq _, hagain⟩⟩

/-- What holds of the calls of a last try, and goes on to hold with a try before them, holds of the
calls of all tries. -/
theorem tries_calls_induction {giveUp : Option Nat} {P : (before : Nat) → (calls : Log) → Prop}
    {result : Except StepError TextMatch}
    (h : Goes stop (r.tries target giveUp left attempts).run before log result after)
    (hnone : ∀ before, P before [])
    (hlast : ∀ x : Exchange, x.call? = some .detect → P x.made [x])
    (hmore : ∀ (x : Exchange) (xs : Log), x.call? = some .detect →
      (∀ t, giveUp = some t → x.met < t) → P (x.met + r.backoff) xs → P x.made (x :: xs)) :
    P before (calls log) := by
  induction left generalizing before log attempts with
  | zero =>
    rcases goes_try_calls h with ⟨-, hcalls⟩ | ⟨-, x, rfl, hx, hcalls | ⟨_, _, hleft, -⟩⟩
    · exact hcalls ▸ hnone before
    · exact hcalls ▸ hlast x hx
    · cases hleft
  | succ left ih =>
    rcases goes_try_calls h with
      ⟨-, hcalls⟩ | ⟨-, x, rfl, hx, hcalls | ⟨_, _, hleft, hmet, hcalls, hagain⟩⟩
    · exact hcalls ▸ hnone before
    · exact hcalls ▸ hlast x hx
    · cases hleft
      exact hcalls ▸ hmore x _ hx hmet (ih hagain)

/-- Recognition calls for nothing but detections. -/
theorem tries_calls {giveUp : Option Nat} {result : Except StepError TextMatch}
    (h : Goes stop (r.tries target giveUp left attempts).run before log result after) :
    ∀ x ∈ calls log, x.call? = some .detect := by
  refine tries_calls_induction (P := fun _ xs => ∀ x ∈ xs, x.call? = some .detect) h
    (fun _ _ hx => absurd hx List.not_mem_nil) (fun x hx => ?_) (fun x xs hx _ hxs => ?_)
  · exact List.forall_mem_singleton.mpr hx
  · exact List.forall_mem_cons.mpr ⟨hx, hxs⟩

theorem matchWith_calls {retries : UInt32} {budget : Option Nat}
    {result : Except StepError TextMatch}
    (h : Goes stop (r.matchWith text retries budget).run before log result after) :
    ∀ x ∈ calls log, x.call? = some .detect := by
  obtain ⟨log', rfl, htries⟩ := goes_now_bind_run.mp h
  have hquiet : calls (⟨before, .now, before, before⟩ :: log') = calls log' :=
    calls_cons_of_quiet trivial
  rw [hquiet]
  exact tries_calls htries

/-! ### The pace of the tries -/

variable {giveUp : Nat} {xs : Log}

/-- The detections of tries that begin at `before` and give up at a time. The first begins at once,
each of the others a pause after the one before it, which was over before that time. -/
structure Paced (r : Recognition) (giveUp before : Nat) (xs : Log) : Prop where
  first : ∀ x ∈ xs.head?, x.made = before
  later : xs.IsChain fun x y => x.met < giveUp ∧ y.made = x.met + r.backoff

theorem paced_of_goes_tries {result : Except StepError TextMatch}
    (h : Goes stop (r.tries target (some giveUp) left attempts).run before log result after) :
    r.Paced giveUp before (calls log) := by
  refine tries_calls_induction h (fun _ => ⟨fun _ hx => ?_, .nil⟩) (fun x _ => ?_)
    fun x xs _ hmet hxs => ?_
  · cases hx
  · exact ⟨fun y hy => by cases hy; rfl, .singleton x⟩
  · refine ⟨fun y hy => by cases hy; rfl, List.isChain_cons.mpr ⟨fun y hy => ?_, hxs.later⟩⟩
    exact ⟨hmet giveUp rfl, hxs.first y hy⟩

namespace Paced

/-- All detections but the last are over before the time to give up. -/
theorem met_lt (h : r.Paced giveUp before xs) : ∀ x ∈ xs.dropLast, x.met < giveUp := by
  intro x hx
  obtain ⟨i, hi, rfl⟩ := List.mem_iff_getElem.mp hx
  rw [List.length_dropLast] at hi
  rw [List.getElem_dropLast]
  exact (List.isChain_iff_getElem.mp h.later i (by omega)).1

theorem made_lt (h : r.Paced giveUp before xs) :
    ∀ x ∈ xs, x.made = before ∨ x.made < giveUp + r.backoff := by
  intro x hx
  obtain ⟨i, hi, rfl⟩ := List.mem_iff_getElem.mp hx
  cases i with
  | zero => exact .inl (h.first _ (List.head?_eq_getElem? ▸ List.getElem?_eq_getElem hi))
  | succ i =>
    obtain ⟨hmet, hmade⟩ := List.isChain_iff_getElem.mp h.later i hi
    exact .inr (by omega)

/-- A detection begins after the time to give up exactly if it is the last and the one before it
was over less than a pause before that time. -/
theorem late_iff (h : r.Paced giveUp before xs) (hbefore : before ≤ giveUp)
    (hmet : ∀ x ∈ xs, x.made ≤ x.met) :
    (∃ x ∈ xs, giveUp < x.made) ↔
      ∃ seen x y, xs = seen ++ [x, y] ∧ giveUp < x.met + r.backoff := by
  rcases List.eq_nil_or_concat' xs with rfl | ⟨ys, y, rfl⟩
  · simp
  have hearly : ∀ x ∈ ys, ¬giveUp < x.made := by
    intro x hx
    have hlt := h.met_lt x (by simpa using hx)
    have hle := hmet x (by simp [hx])
    omega
  rcases List.eq_nil_or_concat' ys with rfl | ⟨seen, x, rfl⟩
  · have hfirst : y.made = before := h.first y rfl
    refine iff_of_false ?_ ?_
    · rintro ⟨_, hy, hlate⟩
      rw [List.mem_singleton.mp hy] at hlate
      omega
    · rintro ⟨seen, _, _, heq, -⟩
      have := congrArg List.length heq
      simp at this
  · have hlast : y.made = x.met + r.backoff := by
      have hchain := h.later
      rw [List.append_assoc] at hchain
      exact (List.isChain_append.mp hchain).2.1.rel.2
    constructor
    · rintro ⟨z, hz, hlate⟩
      rcases List.mem_append.mp hz with hz | hz
      · exact absurd hlate (hearly z hz)
      · rw [List.mem_singleton.mp hz, hlast] at hlate
        exact ⟨seen, x, y, List.append_assoc .., hlate⟩
    · rintro ⟨seen', x', y', heq, hlate⟩
      rw [List.append_assoc] at heq
      obtain ⟨-, hpair⟩ := List.append_inj' heq rfl
      cases hpair
      exact ⟨y, by simp, hlast ▸ hlate⟩

end Paced

/-- When recognition with a budget detects, if it begins at `started`. -/
structure Spends (r : Recognition) (budget : Nat) (stop : Option Nat) (started : Nat) (log : Log) :
    Prop where
  /-- Only the stop keeps it from the first detection. -/
  begins : raised stop started = false → detections log ≠ []
  paced : r.Paced (started + budget) started (detections log)
  /-- All detections but the last are over within the budget. -/
  within : ∀ x ∈ (detections log).dropLast, x.met < started + budget
  made_lt : ∀ x ∈ detections log, x.made = started ∨ x.made < started + budget + r.backoff
  /-- The budget does not end the tries exactly if the last pause goes on beyond it. -/
  late_iff : (∃ x ∈ detections log, started + budget < x.made) ↔
    ∃ seen x y, detections log = seen ++ [x, y] ∧ started + budget < x.met + r.backoff

theorem spends_of_goes {retries : UInt32} {budget : Nat} {result : Except StepError TextMatch}
    (h : Goes stop (r.matchWith text retries (some budget)).run before log result after) :
    r.Spends budget stop before log := by
  obtain ⟨log', rfl, htries⟩ := goes_now_bind_run.mp h
  have hsame : detections (⟨before, .now, before, before⟩ :: log') = calls log' :=
    (detections_eq_calls (matchWith_calls h)).trans (calls_cons_of_quiet trivial)
  have hmet : ∀ x ∈ calls log', x.made ≤ x.met := fun x hx =>
    (htries.meets x (mem_calls.mp hx).1).1.le
  have hpaced := paced_of_goes_tries htries
  have hbegins : raised stop before = false → calls log' ≠ [] := by
    intro hcalm hnone
    rcases goes_try_calls htries with ⟨hraised, -⟩ | ⟨-, x, -, -, hone | ⟨_, _, -, -, hmore, -⟩⟩
    · cases hcalm.symm.trans hraised
    · cases hnone.symm.trans hone
    · cases hnone.symm.trans hmore
  have hlate := hpaced.late_iff (Nat.le_add_right ..) hmet
  rw [← hsame] at hpaced hbegins hlate
  exact ⟨hbegins, hpaced, hpaced.met_lt, hpaced.made_lt, hlate⟩

/-- The gesture is a tap at the text that the last detection of the log found. -/
def TapsLast (r : Recognition) (target : String) (log : Log) (gesture : Exchange) : Prop :=
  ∃ seen made texts met d,
    detections log = seen ++ [⟨made, .query .detect true none, .answered (.ok texts), met⟩] ∧
      selectTarget r.threshold target texts = some d ∧ met ≤ gesture.made ∧
      gesture.request = .call (.tap d.bounds.center)

theorem Selects.detections_eq {d : Screen.Detection} (h : r.Selects target log d) :
    ∃ seen made texts met,
      detections log = seen ++ [⟨made, .query .detect true none, .answered (.ok texts), met⟩] ∧
        selectTarget r.threshold target texts = some d := by
  obtain ⟨seen, made, texts, met, hcalls, hd⟩ := h
  refine ⟨seen.filter (·.call?.any Phone.Call.isDetect), made, texts, met, ?_, hd⟩
  rw [detections, callsOf_eq_filter, hcalls, List.filter_append]
  rfl

end Recognition

/-! ### Late taps -/

namespace Recognition

variable {r : Recognition} {target : String} {giveUp : Option Nat} {left attempts : Nat}
  {texts : List Screen.Detection}

/-- A detection that is over at once. -/
def glimpse (now : Nat) (texts : List Screen.Detection) : Exchange :=
  ⟨now, .query .detect true none, .answered (.ok texts), now⟩

theorem meets_glimpse (now : Nat) (texts : List Screen.Detection) :
    Meets none now (.query .detect true none) (.answered (.ok texts)) now :=
  ⟨Nat.le_refl _, nofun, by simp⟩

theorem goes_countOn_of_lt (h : attempts + 1 < UInt32.size) :
    Goes stop (Attempt.countOn attempts).run before [] (.ok (attempts + 1)) before := by
  unfold Attempt.countOn
  rw [if_pos h]
  exact ⟨rfl, rfl, rfl⟩

/-- A try that finds the text is the last. -/
theorem exists_goes_found {d : Screen.Detection} (before : Nat) (giveUp : Option Nat)
    (left attempts : Nat) (hcount : attempts + 1 < UInt32.size)
    (hselect : selectTarget r.threshold target texts = some d) :
    ∃ log, Goes none (r.tries target giveUp left attempts).run before log (.ok (ofDetection d))
        before ∧ calls log = [glimpse before texts] := by
  unfold tries
  exact ⟨_, goes_bind_ok.mpr ⟨_, _, _, _, rfl, goes_check.mpr ⟨rfl, rfl, rfl⟩,
    goes_bind_ok.mpr ⟨_, _, _, _, rfl, goes_countOn_of_lt hcount,
    goes_bind_ok.mpr ⟨_, _, _, _, rfl, goes_query.mpr ⟨_, rfl, meets_glimpse before texts, rfl⟩, by
      simp only [hselect]
      exact goes_checked_bind_run.mpr ⟨_, rfl, goes_lift_bind_run.mpr
        ⟨_, (), before, [], rfl, goes_perform.mpr ⟨rfl, rfl⟩, rfl, rfl, rfl⟩⟩⟩⟩⟩, by
      simp only [calls_append, calls_overflows]
      rfl⟩

/-- A try that finds nothing in time is followed by another. -/
theorem exists_goes_again {result : Except StepError TextMatch} (texts : List Screen.Detection)
    (hcount : attempts + 1 < UInt32.size) (hselect : selectTarget r.threshold target texts = none)
    (hopen : ¬giveUp.any (· ≤ before))
    (h : Goes none (r.tries target giveUp left (attempts + 1)).run (before + r.backoff) log result
      after) :
    ∃ log', Goes none (r.tries target giveUp (left + 1) attempts).run before log' result after ∧
      calls log' = glimpse before texts :: calls log := by
  have hpause : Meets none before (.pause r.backoff true) false (before + r.backoff) :=
    ⟨rfl, by simp⟩
  unfold tries
  exact ⟨_, goes_bind_run.mpr (.inr ⟨_, _, _, _, rfl, goes_check.mpr ⟨rfl, rfl, rfl⟩,
    goes_bind_run.mpr (.inr ⟨_, _, _, _, rfl, goes_countOn_of_lt hcount,
    goes_bind_run.mpr (.inr ⟨_, _, _, _, rfl,
      goes_query.mpr ⟨_, rfl, meets_glimpse before texts, rfl⟩, by
        simp only [hselect]
        refine goes_now_bind_run.mpr
          ⟨⟨before, .pause r.backoff true, false, before + r.backoff⟩ :: log, rfl, ?_⟩
        rw [if_neg hopen]
        exact goes_bind_run.mpr
          (.inr ⟨_, _, _, _, rfl, goes_pause.mpr ⟨_, rfl, hpause, rfl⟩, h⟩)⟩)⟩)⟩), by rfl⟩

end Recognition

/-- Where a pause is longer than the budget, a text that appears in the first pause is tapped after
the budget. -/
theorem exists_goes_late (r : StepRunner) (task : Task) (text : String) (retries : UInt32)
    (budget started : Nat) (d : Screen.Detection) (hretries : retries ≠ 0) (hbudget : 0 < budget)
    (hlate : budget < r.recognition.backoff)
    (hshown : shows r.recognition.threshold (Text.unquote text) d = true) :
    ∃ log, Goes none (r.act task (.clickImage text retries (some budget))).run started log (.ok ())
        (started + r.recognition.backoff) ∧
      (∃ x ∈ detections log, started + budget < x.made) ∧ gestures log ≠ [] := by
  obtain ⟨left, hleft⟩ : ∃ left, retries.toNat = left + 1 :=
    Nat.exists_eq_succ_of_ne_zero fun h => hretries (UInt32.toNat_inj.mp h)
  have hselect : selectTarget r.recognition.threshold (Text.unquote text) [d] = some d :=
    List.find?_cons_of_pos hshown
  obtain ⟨log₂, hfound, hcalls₂⟩ := Recognition.exists_goes_found
    (started + r.recognition.backoff) (some (started + budget)) left 1 (by decide) hselect
  obtain ⟨log₁, htries, hcalls₁⟩ := Recognition.exists_goes_again [] (by decide) rfl
    (by simp; omega) hfound
  have hmatch : Goes none (r.recognition.matchWith text retries (some budget)).run started
      (⟨started, .now, started, started⟩ :: log₁) (.ok (Recognition.ofDetection d))
      (started + r.recognition.backoff) := by
    refine goes_now_bind_run.mpr ⟨log₁, rfl, ?_⟩
    rw [hleft]
    exact htries
  refine ⟨_, goes_bind_ok.mpr ⟨_, _, _, _, rfl, hmatch, goes_call.mpr
    ⟨.ok (), rfl, Nat.le_refl _, rfl⟩⟩, ?_, ?_⟩
  · refine ⟨Recognition.glimpse (started + r.recognition.backoff) [d], ?_, by
      show started + budget < started + r.recognition.backoff
      omega⟩
    have hmem : Recognition.glimpse (started + r.recognition.backoff) [d] ∈ calls log₁ := by
      simp [hcalls₁, hcalls₂]
    rw [detections_append]
    refine List.mem_append_left _ (List.mem_filter.mpr ⟨?_, rfl⟩)
    exact List.mem_cons_of_mem _ (mem_calls.mp hmem).1
  · rw [gestures_append]
    exact List.append_ne_nil_of_right_ne_nil _
      (by simp [gestures, Exchange.call?, Phone.Call.isGesture])

/-! ### The budget -/

/-- Recognition with a budget begins its first detection at once and no other later than a pause
after the end of the budget. A detection begins after the budget exactly if the pause before it goes
on so long; then it is the last, but the tap of the step may come of it. -/
theorem recognition_budget (r : StepRunner) (text : String) (retries : UInt32) (budget : Nat)
    (stop : Option Nat) (started : Nat) :
    (∀ log result after,
      Goes stop (r.recognition.matchWith text retries (some budget)).run started log result after →
        r.recognition.Spends budget stop started log) ∧
    ∀ task log result after,
      Goes stop (r.act task (.clickImage text retries (some budget))).run started log result after →
        r.recognition.Spends budget stop started log ∧
          ∀ g ∈ gestures log, r.recognition.TapsLast (Text.unquote text) log g := by
  refine ⟨fun log result after h => Recognition.spends_of_goes h, fun task log result after h => ?_⟩
  rcases goes_bind_run.mp h with ⟨e, -, hmatch⟩ | ⟨log₁, found, between, log₂, rfl, hmatch, htap⟩
  · refine ⟨Recognition.spends_of_goes hmatch, fun g hg => ?_⟩
    rw [r.recognition.matchWith_no_gesture hmatch] at hg
    exact absurd hg List.not_mem_nil
  · obtain ⟨answer, rfl, -, -⟩ := goes_call.mp htap
    have hsame : detections (log₁ ++ [⟨between, .call (.tap found.position), answer, after⟩]) =
        detections log₁ := by
      rw [detections_append]
      exact List.append_nil _
    obtain ⟨begins, paced, within, made_lt, late_iff⟩ := Recognition.spends_of_goes hmatch
    rw [← hsame] at begins paced within made_lt late_iff
    refine ⟨⟨begins, paced, within, made_lt, late_iff⟩, fun g hg => ?_⟩
    rw [gestures_append, r.recognition.matchWith_no_gesture hmatch] at hg
    obtain ⟨hg, -⟩ := List.mem_filter.mp hg
    cases List.mem_singleton.mp hg
    obtain ⟨d, hd, rfl⟩ := r.recognition.matchWith_selects hmatch
    obtain ⟨seen, made, texts, met, hlast, hselect⟩ := hd.detections_eq
    have hmem : (⟨made, .query .detect true none, .answered (.ok texts), met⟩ : Exchange) ∈ log₁ :=
      List.mem_of_mem_filter (hlast ▸ List.mem_append_right seen (List.mem_singleton_self _))
    exact ⟨seen, made, texts, met, d, hsame.trans hlast, hselect, (hmatch.meets _ hmem).2.2, rfl⟩

/-- A text that appears 500 ms after the beginning, with a budget of 300 ms. -/
theorem recognition_budget_late :
    ∃ log, Goes none (Scheduler.standard.steps.act imageTask (.clickImage "Go" 3 (some 300))).run 0
        log (.ok ()) 500 ∧
      Scheduler.standard.steps.recognition.Spends 300 none 0 log ∧
      ∀ g ∈ gestures log, Scheduler.standard.steps.recognition.TapsLast (Text.unquote "Go") log g :=
  have ⟨log, hgoes, _⟩ := exists_goes_late Scheduler.standard.steps imageTask "Go" 3 300 0
    ⟨"Go", 0.9, ⟨0, 0, 100, 40⟩⟩ (by decide) (by decide) (by decide) (by decide)
  ⟨log, hgoes, (recognition_budget Scheduler.standard.steps "Go" 3 300 none 0).2 _ _ _ _ hgoes⟩

/-- A budget of 300 ms is over when the text appears, and it is tapped 200 ms later. -/
theorem taps_beyond_budget :
    ∃ log, Goes none (Scheduler.standard.steps.act imageTask (.clickImage "Go" 3 (some 300))).run 0
        log (.ok ()) 500 ∧
      (∃ x ∈ detections log, 0 + 300 < x.made) ∧ gestures log ≠ [] :=
  exists_goes_late Scheduler.standard.steps imageTask "Go" 3 300 0 ⟨"Go", 0.9, ⟨0, 0, 100, 40⟩⟩
    (by decide) (by decide) (by decide) (by decide)

end CheckIn.Run

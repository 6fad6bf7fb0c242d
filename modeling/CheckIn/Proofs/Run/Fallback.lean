import CheckIn.Proofs.Run.Behaviour
import CheckIn.Proofs.Run.Budget

/-! Recognition as a fallback, in the same surroundings with and without it. It changes nothing
unless a click finds no element. Then it adds to what has happened and takes nothing back: it looks
for the text of the selector, and taps it once or leaves the element not found. -/

namespace CheckIn

/-- The atom is a text or a description. -/
def Atom.IsLiteral (atom : Atom) (text : String) : Prop :=
  atom = .text text ∨ atom = .description text

theorem Atom.literalText_eq_some {atom : Atom} {text : String} :
    atom.literalText = some text ↔ atom.IsLiteral text := by
  cases atom <;> simp [literalText, IsLiteral]

theorem Atom.literalText_eq_none {atom : Atom} :
    atom.literalText = none ↔ ∀ text, ¬atom.IsLiteral text := by
  cases atom <;> simp [literalText, IsLiteral]

/-- The text is the first text or description among the atoms of the selector. -/
def Selector.Carries (selector : Selector) (text : String) : Prop :=
  ∃ seen atom later, selector.atoms = seen ++ atom :: later ∧ atom.IsLiteral text ∧
    ∀ a ∈ seen, ∀ t, ¬a.IsLiteral t

theorem Selector.literalText_eq_findSome? (selector : Selector) :
    selector.literalText = selector.atoms.findSome? Atom.literalText := by
  cases selector with
  | one atom => cases h : atom.literalText <;> simp [literalText, atoms, h]
  | all parts clickable => rfl

theorem Selector.literalText_eq_some {selector : Selector} {text : String} :
    selector.literalText = some text ↔ selector.Carries text := by
  rw [literalText_eq_findSome?, List.findSome?_eq_some_iff]
  simp only [Atom.literalText_eq_some, Atom.literalText_eq_none, Carries]

theorem Selector.literalText_eq_none {selector : Selector} :
    selector.literalText = none ↔ ∀ text, ¬selector.Carries text := by
  simp only [← literalText_eq_some, Option.eq_none_iff_forall_ne_some, ne_eq]

/-- The step clicks an element that it looks for by a selector. -/
def Step.Clicks (step : Step) (selector : Selector) : Prop :=
  ∃ timeout, step.action = .ok (.click selector timeout) ∨
    step.action = .ok (.waitClick selector timeout)

namespace Run

open Process

variable {stop : Option Nat} {past log : Log} {before between after : Nat}

/-- The runner with the fallback on recognition allowed or not. -/
def StepRunner.withFallback (r : StepRunner) (allowed : Bool) : StepRunner :=
  { r with recognitionFallback := allowed }

def StepError.IsNotFound : StepError → Prop
  | elementNotFound _ _ => True
  | _ => False

/-! ### Actions that are no clicks -/

namespace StepRunner

variable (r : StepRunner) (allowed : Bool)

theorem swipeTimes_withFallback (start finish : Screen.Point) (duration count : Nat) :
    (r.withFallback allowed).swipeTimes start finish duration count =
      r.swipeTimes start finish duration count := by
  induction count with
  | zero => rfl
  | succ count ih =>
    unfold swipeTimes
    rw [ih]
    rfl

theorem pageSwipe_withFallback (up : Bool) (count : UInt32) (duration : Nat) :
    (r.withFallback allowed).pageSwipe up count duration = r.pageSwipe up count duration := by
  simp only [pageSwipe, swipeTimes_withFallback]

theorem clickRounds_withFallback (selector : Selector) (dwell rounds clicks : Nat) :
    (r.withFallback allowed).clickRounds selector dwell rounds clicks =
      r.clickRounds selector dwell rounds clicks := by
  induction rounds generalizing clicks with
  | zero => rfl
  | succ rounds ih =>
    unfold clickRounds
    simp only [ih]
    rfl

/-- Only clicks depend on whether the fallback is allowed. -/
theorem runStep_withFallback {step : Step} (task : Task) (h : ∀ selector, ¬step.Clicks selector) :
    (r.withFallback allowed).runStep task step = r.runStep task step := by
  unfold runStep
  cases haction : step.action with
  | error fault => rfl
  | ok action =>
    cases action with
    | click selector timeout => exact absurd ⟨timeout, .inl haction⟩ (h selector)
    | waitClick selector timeout => exact absurd ⟨timeout, .inr haction⟩ (h selector)
    | swipeUp count duration => exact r.pageSwipe_withFallback allowed true count duration
    | swipeDown count duration => exact r.pageSwipe_withFallback allowed false count duration
    | clickLoop selector dwell => exact r.clickRounds_withFallback allowed selector dwell _ _
    | _ => rfl

end StepRunner

/-! ### Rescue -/

/-- What becomes of a click that found no element, where recognition may take over, with the
exchanges that this adds. Recognition calls for nothing but detections. -/
inductive Rescue (stop : Option Nat) (r : Recognition) (selector : Selector) (missed : StepError)
    (before : Nat) : Log → Except StepError Unit → (after : Nat) → Prop
  /-- There is no text to look for. -/
  | blind : (∀ text, ¬selector.Carries text) →
      Rescue stop r selector missed before [] (.error missed) before
  | unseen {text target : String} {attempts : Nat} {log : Log} {after : Nat} :
      selector.Carries text →
      Goes stop (r.matchText text).run before log (.error (.recognitionNotFound target attempts))
        after →
      (∀ x ∈ calls log, x.call? = some .detect) →
      Rescue stop r selector missed before log (.error missed) after
  | stopped {text : String} {log : Log} {after : Nat} :
      selector.Carries text →
      Goes stop (r.matchText text).run before log (.error .stopped) after →
      (∀ x ∈ calls log, x.call? = some .detect) →
      Rescue stop r selector missed before log (.error .stopped) after
  /-- The text is tapped where the last detection shows it. -/
  | struck {text : String} {seen looked log : Log} {made met now after : Nat}
      {detections : List Screen.Detection} {d : Screen.Detection} {result : Except StepError Unit} :
      selector.Carries text →
      Goes stop (r.matchText text).run before looked (.ok (Recognition.ofDetection d)) now →
      (∀ x ∈ calls looked, x.call? = some .detect) →
      calls looked =
        seen ++ [⟨made, .query .detect true none, .answered (.ok detections), met⟩] →
      d ∈ detections → r.Shows text d → Strikes (.tap d.bounds.center) now after log result →
      Rescue stop r selector missed before (looked ++ log) result after

theorem Rescue.ne_recognitionNotFound {r : Recognition} {selector : Selector} {missed : StepError}
    {result : Except StepError Unit} (h : Rescue stop r selector missed before log result after)
    (hmissed : missed.IsNotFound) (text : String) (attempts : Nat) :
    result ≠ .error (.recognitionNotFound text attempts) := by
  cases h with
  | blind | unseen => rintro ⟨⟩; exact hmissed
  | stopped => nofun
  | struck _ _ _ _ _ _ hstrikes => cases hstrikes <;> nofun

namespace StepRunner

variable {r : StepRunner} {selector : Selector} {timeout : Nat} {result : Except StepError Unit}

theorem rescue_of_goes
    (h : Goes stop (r.clickRecognised selector timeout).run before log result after) :
    Rescue stop r.recognition selector (notFound selector timeout) before log result after := by
  unfold clickRecognised at h
  split at h
  · next hnone =>
    obtain ⟨rfl, rfl, rfl⟩ := h
    exact .blind (Selector.literalText_eq_none.mp hnone)
  · next text htext =>
    have hcarries := Selector.literalText_eq_some.mp htext
    obtain ⟨looked, matched, between, log, rfl, hmatch, h⟩ :=
      (goes_lift_bind_run (p := (r.recognition.matchText text).run)).mp h
    have hlooked := Recognition.matchWith_calls hmatch
    cases matched with
    | ok found =>
      obtain ⟨d, ⟨seen, made, detections, met, hseen, hd⟩, rfl⟩ :=
        r.recognition.matchWith_selects hmatch
      have hshows := Recognition.shows_iff.mp (List.find?_some hd)
      rw [← map_unit result]
      exact .struck hcarries hmatch hlooked hseen (List.mem_of_find?_eq_some hd) hshows
        (strikes_of_goes h)
    | error e =>
      have he := r.recognition.matchWith_failsOnly _ _ _ _ _ _ _ _ hmatch
      cases e with
      | recognitionNotFound _ _ =>
        obtain ⟨rfl, rfl, rfl⟩ := h
        rw [List.append_nil]
        exact .unseen hcarries hmatch hlooked
      | stopped =>
        obtain ⟨rfl, rfl, rfl⟩ := h
        rw [List.append_nil]
        exact .stopped hcarries hmatch hlooked
      | _ => exact he.elim

/-! ### Clicks -/

/-- A click is a lookup, and then a click at what it found. -/
theorem runStep_of_clicks {step : Step} (r : StepRunner) (task : Task)
    (h : step.Clicks selector) :
    ∃ (timeout : Nat) (lookup : Attempt (Option Screen.Element)),
      FailsOnly (· = .stopped) lookup ∧ ∀ allowed, (r.withFallback allowed).runStep task step =
        lookup >>= (r.withFallback allowed).clickFound selector timeout := by
  obtain ⟨timeout, haction | haction⟩ := h
  · refine ⟨timeout, _, r.lookup.findOnce_failsOnly selector timeout, fun allowed => ?_⟩
    rw [runStep, haction]
    rfl
  · refine ⟨timeout, _, r.lookup.resolve_failsOnly selector timeout, fun allowed => ?_⟩
    rw [runStep, haction]
    rfl

variable {b : Behaviour stop} {lookup : Attempt (Option Screen.Element)}

/-- Without the fallback, a lookup that finds nothing is the end. -/
theorem play_click_of_none
    (h : b.play past lookup.run before = some (log, .ok none, between)) :
    b.play past (lookup >>= (r.withFallback false).clickFound selector timeout).run before =
      some (log, .error (notFound selector timeout), between) := by
  rw [Behaviour.play_bind_of_ok h]
  show some (log ++ [], _) = _
  rw [List.append_nil]

/-- Without the fallback, an element is not found only if the lookup finds nothing. -/
theorem play_lookup_of_not_found {missed : StepError} (hfails : FailsOnly (· = .stopped) lookup)
    (h : b.play past (lookup >>= (r.withFallback false).clickFound selector timeout).run before =
      some (log, .error missed, after)) (hmissed : missed.IsNotFound) :
    b.play past lookup.run before = some (log, .ok none, after) ∧
      missed = notFound selector timeout := by
  cases hplay : b.play past lookup.run before with
  | none =>
    rw [ExceptT.run_bind, Behaviour.play_bind, hplay] at h
    cases h
  | some y =>
    obtain ⟨log₁, found, between⟩ := y
    rcases found with e | _ | e
    · rw [ExceptT.run_bind, Behaviour.play_bind, hplay] at h
      obtain ⟨⟩ := h
      cases hfails _ _ _ _ _ (Behaviour.goes_of_play hplay)
      exact hmissed.elim
    · rw [play_click_of_none hplay] at h
      cases h
      exact ⟨rfl, rfl⟩
    · rw [Behaviour.play_bind_of_ok hplay] at h
      obtain ⟨⟨log₂, _, _⟩, hclick, ⟨⟩⟩ := Option.map_eq_some_iff.mp h
      obtain ⟨struck, -, hstrikes⟩ := clicks_of_goes (Behaviour.goes_of_play hclick)
      cases hstrikes
      exact hmissed.elim

theorem play_runStep_isSome {step : Step} (r : StepRunner) (task : Task) (hb : b.Serves)
    (hcountable : ∀ action, step.action = .ok action → r.IsCountable action) :
    (b.play past (r.runStep task step).run before).isSome := by
  refine Behaviour.play_isSome hb ?_
  unfold runStep
  split
  · next action haction =>
    have hasks : (r.act task action).run.Asks (Meets stop) (Request.OfAction fun _ => False) :=
      r.act_asks task action (.inr (hcountable action haction))
    refine (hasks before).mono fun _ q hq => ?_
    rintro rfl
    exact hq
  · trivial

end StepRunner

/-- Allowing recognition as a fallback changes nothing unless a click finds no element. Then it adds
to the same exchanges those of a rescue, in which nothing but detections are called for before a tap
at the text of the selector. -/
theorem fallback_extends (r : StepRunner) (task : Task) (step : Step) (stop : Option Nat)
    (b : Behaviour stop) (past : Log) (before : Nat) :
    let off := b.play past ((r.withFallback false).runStep task step).run before
    let on := b.play past ((r.withFallback true).runStep task step).run before
    ((¬∃ selector log missed after, step.Clicks selector ∧ StepError.IsNotFound missed ∧
        off = some (log, .error missed, after)) → on = off) ∧
    (∀ selector log missed after, step.Clicks selector → StepError.IsNotFound missed →
      off = some (log, .error missed, after) → ∀ log' result after',
        on = some (log', result, after') → ∃ more, log' = log ++ more ∧
          Rescue stop r.recognition selector missed after more result after' ∧
          ∀ text attempts, result ≠ .error (.recognitionNotFound text attempts)) ∧
    (b.Serves → (∀ action, step.action = .ok action → r.IsCountable action) →
      off.isSome ∧ on.isSome) := by
  intro off on
  refine ⟨fun hfound => ?_, fun selector log missed after hclicks hmissed hoff => ?_, ?_⟩
  · by_cases hclicks : ∃ selector, step.Clicks selector
    · obtain ⟨selector, hclicks⟩ := hclicks
      obtain ⟨timeout, lookup, -, hrun⟩ := r.runStep_of_clicks task hclicks
      simp only [off, on, hrun] at hfound ⊢
      refine Behaviour.play_bind_congr fun log found between hplay => ?_
      cases found with
      | some e => rfl
      | none =>
        exact absurd ⟨selector, log, StepRunner.notFound selector timeout, between, hclicks,
          trivial, StepRunner.play_click_of_none hplay⟩ hfound
    · rw [not_exists] at hclicks
      simp only [off, on, r.runStep_withFallback _ task hclicks]
  · intro log' result after' hon
    obtain ⟨timeout, lookup, hfails, hrun⟩ := r.runStep_of_clicks task hclicks
    simp only [off, on, hrun] at hoff hon
    obtain ⟨hlookup, rfl⟩ := StepRunner.play_lookup_of_not_found hfails hoff hmissed
    rw [Behaviour.play_bind_of_ok hlookup] at hon
    obtain ⟨⟨more, _, _⟩, hplay, ⟨⟩⟩ := Option.map_eq_some_iff.mp hon
    have hrescue := StepRunner.rescue_of_goes (r := r.withFallback true)
      (Behaviour.goes_of_play hplay)
    exact ⟨more, rfl, hrescue, hrescue.ne_recognitionNotFound hmissed⟩
  · intro hb hcountable
    exact ⟨(r.withFallback false).play_runStep_isSome task hb hcountable,
      (r.withFallback true).play_runStep_isSome task hb hcountable⟩

/-- Replies of a screen that shows a text outside of its layout. -/
def shownOnly (d : Screen.Detection) : (c : Phone.Call) → (now : Nat) → Except Failure c.Reply
  | .findAll _, _ => .ok []
  | .detect, _ => .ok [d]
  | .tap _, _ => .ok ()
  | _, _ => .error (.of "offline")

/-- A text that the layout does not show is tapped where recognition shows it. -/
theorem fallback_extends_signIn :
    let r := Scheduler.standard.steps
    let selector : Selector := .one (.text "Sign In")
    let step : Step := ⟨"sign in", "click", .ok (.click selector 500)⟩
    let b := Behaviour.instant (shownOnly ⟨"Sign In now", 0.9, ⟨0, 0, 100, 40⟩⟩)
    ∃ log more after,
      b.play [] ((r.withFallback false).runStep imageTask step).run 0 =
        some (log, .error (StepRunner.notFound selector 500), 0) ∧
      b.play [] ((r.withFallback true).runStep imageTask step).run 0 =
        some (log ++ more, .ok (), after) ∧
      Rescue none r.recognition selector (StepRunner.notFound selector 500) 0 more (.ok ())
        after := by
  intro r selector step b
  have hclicks : step.Clicks selector := ⟨500, .inl rfl⟩
  have hcountable : ∀ action, step.action = .ok action → r.IsCountable action := by
    rintro _ ⟨⟩
    show r.recognition.retries.toNat + 1 < UInt32.size
    decide
  have hoff : b.play [] ((r.withFallback false).runStep imageTask step).run 0 =
      some (_, .error (StepRunner.notFound selector 500), 0) := rfl
  obtain ⟨-, hrescue, hends⟩ := fallback_extends r imageTask step none b [] 0
  obtain ⟨⟨log', result, after'⟩, hon⟩ := Option.isSome_iff_exists.mp
    (hends (Behaviour.instant_serves _) hcountable).2
  obtain ⟨more, rfl, hmore, -⟩ :=
    hrescue selector _ (StepRunner.notFound selector 500) 0 hclicks trivial hoff _ _ _ hon
  have hok : (b.play [] ((r.withFallback true).runStep imageTask step).run 0).map (·.2.1.toBool) =
      some true := by decide +kernel
  rw [hon] at hok
  obtain rfl : result = .ok () := by
    cases result with
    | ok _ => rfl
    | error _ => cases hok
  exact ⟨_, more, after', hoff, hon, hmore⟩

end Run

end CheckIn

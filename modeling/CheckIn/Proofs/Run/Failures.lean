import CheckIn.Proofs.Run.Polling

/-! What steps may fail with, in any surroundings. Lookups fail with the stop alone; recognition may
also not find its text. No action that satisfies its verb ends as one that does not. -/

namespace CheckIn.Run

open Process

variable {α β : Type} {E : StepError → Prop}

/-- What an action may fail with: anything but a malformed step and trouble with leaving an app. -/
def StepError.OfAction : StepError → Prop
  | malformed _ | appLifecycle _ => False
  | _ => True

/-- What recognition may fail with. -/
def StepError.OfRecognition : StepError → Prop
  | recognitionNotFound _ _ | stopped => True
  | _ => False

theorem StepError.OfRecognition.ofAction : ∀ {e : StepError}, e.OfRecognition → e.OfAction
  | recognitionNotFound _ _, _ | stopped, _ => trivial

/-- Whatever the surroundings do, every error of the attempt is one of `E`. -/
def FailsOnly (E : StepError → Prop) (x : Attempt α) : Prop :=
  ∀ stop before log e after, Goes stop x.run before log (.error e) after → E e

namespace FailsOnly

theorem mono {F : StepError → Prop} {x : Attempt α} (h : FailsOnly E x) (hEF : ∀ e, E e → F e) :
    FailsOnly F x :=
  fun stop before log e after hgoes => hEF e (h stop before log e after hgoes)

theorem pure (a : α) : FailsOnly E (Pure.pure a) := by
  rintro stop before log e after ⟨-, h, -⟩
  cases h

theorem throw {e : StepError} (h : E e) : FailsOnly (α := α) E (MonadExcept.throw e) := by
  rintro stop before log _ after ⟨-, he, -⟩
  cases he
  exact h

theorem lift (p : Part α) : FailsOnly E (liftM p) := by
  intro stop before log e after hgoes
  obtain ⟨a, ha, -⟩ := goes_lift_run.mp hgoes
  cases ha

theorem outcome (x : Attempt α) : FailsOnly E x.outcome := by
  intro stop before log e after hgoes
  obtain ⟨a, ha, -⟩ := goes_outcome.mp hgoes
  cases ha

theorem bind {x : Attempt α} {f : α → Attempt β} (hx : FailsOnly E x)
    (hf : ∀ a, FailsOnly E (f a)) : FailsOnly E (x >>= f) := by
  intro stop before log e after hgoes
  rcases goes_bind_run.mp hgoes with ⟨e', he, h₁⟩ | ⟨log₁, a, between, log₂, rfl, -, h₂⟩
  · cases he
    exact hx _ _ _ _ _ h₁
  · exact hf a _ _ _ _ _ h₂

theorem call (c : Phone.Call) (h : ∀ p, E (.device p)) : FailsOnly E (Attempt.call c) := by
  intro stop before log e after hgoes
  obtain ⟨answer, -, -, he⟩ := goes_call.mp hgoes
  cases answer with
  | ok reply => cases he
  | error failure =>
    cases he
    exact h _

theorem pause (duration : Nat) (heed : Bool) (h : E .stopped) :
    FailsOnly E (Attempt.pause duration heed) := by
  intro stop before log e after hgoes
  obtain ⟨stopped, -, -, he⟩ := goes_pause.mp hgoes
  cases stopped with
  | false => cases he
  | true =>
    cases he
    exact h

theorem query (c : Phone.Call) (heed : Bool) (deadline : Option Nat) (h : E .stopped) :
    FailsOnly E (Attempt.query c heed deadline) := by
  intro stop before log e after hgoes
  obtain ⟨answer, -, -, he⟩ := goes_query.mp hgoes
  cases answer with
  | answered _ | timedOut => cases he
  | stopped =>
    cases he
    exact h

theorem check (h : E .stopped) : FailsOnly E (Attempt.check true) := by
  intro stop before log e after hgoes
  obtain ⟨-, -, he⟩ := goes_check.mp hgoes
  cases hr : raised stop before with
  | false =>
    rw [hr] at he
    cases he
  | true =>
    rw [hr] at he
    cases he
    exact h

end FailsOnly

/-! ### Looking for a target -/

theorem Lookup.resolve_failsOnly (l : Lookup) (selector : Selector) (timeout : Nat) :
    FailsOnly (· = .stopped) (l.resolve selector timeout true) := by
  intro stop before log e after hgoes
  exact ((bounds_of_goes hgoes).error e rfl).1

theorem Lookup.findOnce_failsOnly (l : Lookup) (selector : Selector) (timeout : Nat) :
    FailsOnly (· = .stopped) (l.findOnce selector timeout true) := by
  have hcheck : FailsOnly (· = .stopped) (Attempt.check true) := .check rfl
  refine hcheck.bind fun _ => (FailsOnly.lift _).bind fun started => ?_
  intro stop before log e after hgoes
  exact ((look_glances selector _ _ _ _ _ hgoes).yields.eq_stopped rfl).1

namespace Recognition

theorem countOn_failsOnly (count : Nat) : FailsOnly E (Attempt.countOn count) := by
  unfold Attempt.countOn
  split
  · exact .pure _
  · exact (FailsOnly.lift _).bind nofun

theorem tries_failsOnly (r : Recognition) (target : String) (giveUp : Option Nat)
    (left attempts : Nat) :
    FailsOnly StepError.OfRecognition (r.tries target giveUp left attempts) := by
  induction left generalizing attempts with
  | zero =>
    unfold tries
    refine (FailsOnly.check trivial).bind fun _ => (countOn_failsOnly attempts).bind fun _ => ?_
    refine (FailsOnly.query _ _ _ trivial).bind fun answer => ?_
    dsimp only
    split
    · refine (FailsOnly.lift _).bind fun _ => ?_
      exact (FailsOnly.lift _).bind fun _ => .pure _
    · exact (FailsOnly.lift _).bind fun _ => .throw trivial
  | succ left ih =>
    unfold tries
    refine (FailsOnly.check trivial).bind fun _ => (countOn_failsOnly attempts).bind fun count => ?_
    refine (FailsOnly.query _ _ _ trivial).bind fun answer => ?_
    dsimp only
    split
    · refine (FailsOnly.lift _).bind fun _ => ?_
      exact (FailsOnly.lift _).bind fun _ => .pure _
    · refine (FailsOnly.lift _).bind fun now => ?_
      have hnext := (FailsOnly.pause r.backoff true trivial).bind fun _ => ih count
      split
      · exact (FailsOnly.throw trivial).bind fun _ => hnext
      · exact hnext

theorem matchWith_failsOnly (r : Recognition) (text : String) (retries : UInt32)
    (budget : Option Nat) :
    FailsOnly StepError.OfRecognition (r.matchWith text retries budget) :=
  (FailsOnly.lift _).bind fun _ => r.tries_failsOnly _ _ _ _

end Recognition

/-! ### Actions -/

namespace StepRunner

variable (r : StepRunner)

theorem launchApp_failsOnly (package : String) (timeout : Nat) :
    FailsOnly StepError.OfAction (r.launchApp package timeout) := by
  have hlaunch : FailsOnly StepError.OfAction (do
      Attempt.pause r.launchSettle true
      Part.log .info "autosign::exec::interpreter" "launching app" [("package", .text package)]
      Attempt.call (.launch package)
      Attempt.pause timeout true : Attempt Unit) := by
    refine (FailsOnly.pause _ _ trivial).bind fun _ => (FailsOnly.lift _).bind fun _ => ?_
    exact (FailsOnly.call _ fun _ => trivial).bind fun _ => .pause _ _ trivial
  unfold launchApp
  refine (FailsOnly.lift _).bind fun answer => ?_
  cases answer with
  | error failure => exact (FailsOnly.lift _).bind fun _ => (FailsOnly.lift _).bind fun _ => hlaunch
  | ok _ => exact hlaunch

theorem clickElement_failsOnly (e : Screen.Element) :
    FailsOnly StepError.OfAction (clickElement e) := by
  unfold clickElement
  split
  · exact .call _ fun _ => trivial
  · exact (FailsOnly.lift _).bind fun _ => .call _ fun _ => trivial

theorem clickRecognised_failsOnly (selector : Selector) (timeout : Nat) :
    FailsOnly StepError.OfAction (r.clickRecognised selector timeout) := by
  unfold clickRecognised
  split
  · exact .throw trivial
  · next text _ =>
    intro stop before log e after hgoes
    rcases goes_bind_run.mp hgoes with ⟨e', -, h₁⟩ | ⟨log₁, found, between, log₂, rfl, h₁, h₂⟩
    · exact (FailsOnly.outcome (E := fun _ => False) _ _ _ _ _ _ h₁).elim
    · obtain ⟨_, ⟨⟩, hmatch⟩ := goes_outcome.mp h₁
      rcases found with e' | found
      · have he := (r.recognition.matchWith_failsOnly _ _ _ _ _ _ _ _ hmatch).ofAction
        cases e' <;> exact FailsOnly.throw (by exact he) _ _ _ _ _ h₂
      · exact FailsOnly.call _ (fun _ => trivial) _ _ _ _ _ h₂

theorem clickFound_failsOnly (selector : Selector) (timeout : Nat) (found : Option Screen.Element) :
    FailsOnly StepError.OfAction (r.clickFound selector timeout found) := by
  unfold clickFound
  split
  · exact clickElement_failsOnly _
  · split
    · exact r.clickRecognised_failsOnly selector timeout
    · exact .throw trivial

theorem swipe_failsOnly (start finish : Screen.Point) (duration : Nat) :
    FailsOnly StepError.OfAction (r.swipe start finish duration) := by
  unfold swipe
  refine (FailsOnly.lift _).bind fun _ => (FailsOnly.call _ fun _ => trivial).bind fun _ => ?_
  exact (FailsOnly.lift _).bind fun _ => .pause _ _ trivial

theorem swipeTimes_failsOnly (start finish : Screen.Point) (duration count : Nat) :
    FailsOnly StepError.OfAction (r.swipeTimes start finish duration count) := by
  induction count with
  | zero => exact .pure _
  | succ count ih =>
    unfold swipeTimes
    refine (FailsOnly.check trivial).bind fun _ => ?_
    exact (r.swipe_failsOnly start finish duration).bind fun _ => ih

theorem pageSwipe_failsOnly (up : Bool) (count : UInt32) (duration : Nat) :
    FailsOnly StepError.OfAction (r.pageSwipe up count duration) := by
  unfold pageSwipe
  refine (FailsOnly.call _ fun _ => trivial).bind fun size => ?_
  refine (FailsOnly.lift _).bind fun _ => ?_
  dsimp only
  split <;> exact r.swipeTimes_failsOnly _ _ _ _

theorem clickRounds_failsOnly (selector : Selector) (dwell rounds clicks : Nat) :
    FailsOnly StepError.OfAction (r.clickRounds selector dwell rounds clicks) := by
  induction rounds generalizing clicks with
  | zero => exact .lift _
  | succ rounds ih =>
    unfold clickRounds
    refine ((r.lookup.findOnce_failsOnly _ _).mono fun e he => he ▸ trivial).bind fun found => ?_
    cases found with
    | none => exact .lift _
    | some e =>
      refine (FailsOnly.outcome _).bind fun result => ?_
      cases result with
      | error e =>
        refine (FailsOnly.lift _).bind fun _ => ?_
        exact (FailsOnly.pause _ _ trivial).bind fun _ => ih clicks
      | ok _ =>
        refine (FailsOnly.pause _ _ trivial).bind fun _ => ?_
        refine (FailsOnly.call _ fun _ => trivial).bind fun _ => ?_
        exact (FailsOnly.pause _ _ trivial).bind fun _ => ih (clicks + 1)

theorem act_failsOnly (task : Task) (action : Action) :
    FailsOnly StepError.OfAction (r.act task action) := by
  have hfind (selector timeout) :
      FailsOnly StepError.OfAction (r.lookup.findOnce selector timeout true) :=
    (r.lookup.findOnce_failsOnly selector timeout).mono fun e he => he ▸ trivial
  have hresolve (selector timeout) :
      FailsOnly StepError.OfAction (r.lookup.resolve selector timeout true) :=
    (r.lookup.resolve_failsOnly selector timeout).mono fun e he => he ▸ trivial
  have hcall (c : Phone.Call) : FailsOnly StepError.OfAction (Attempt.call c) :=
    .call c fun _ => trivial
  cases action with
  | launch timeout => exact r.launchApp_failsOnly task.package timeout
  | click selector timeout =>
    exact (hfind selector timeout).bind fun found => r.clickFound_failsOnly selector timeout found
  | waitClick selector timeout =>
    exact (hresolve selector timeout).bind fun found =>
      r.clickFound_failsOnly selector timeout found
  | waitExists selector timeout =>
    refine (hresolve selector timeout).bind fun found => ?_
    cases found
    · exact .throw trivial
    · exact .pure _
  | clickImage text retries timeout =>
    refine FailsOnly.bind ?_ fun _ => hcall _
    exact (r.recognition.matchWith_failsOnly text retries timeout).mono
      fun _ => StepError.OfRecognition.ofAction
  | swipe start finish duration => exact r.swipe_failsOnly start finish duration
  | swipeUp count duration => exact r.pageSwipe_failsOnly true count duration
  | swipeDown count duration => exact r.pageSwipe_failsOnly false count duration
  | back | home => exact (hcall _).bind fun _ => .pause _ _ trivial
  | sleep duration => exact .pause _ _ trivial
  | input selector text timeout =>
    refine (hresolve selector timeout).bind fun found => ?_
    cases found
    · exact .throw trivial
    · exact hcall _
  | screenshot template =>
    exact (FailsOnly.lift _).bind fun _ => (hcall _).bind fun _ => .lift _
  | clickLoop selector dwell => exact r.clickRounds_failsOnly selector dwell _ _

end StepRunner

end CheckIn.Run

import CheckIn.Proofs.Requests
import CheckIn.Run.Schedule

/-! What the parts of a run may ask for, in any surroundings. Steps heed the stop in every query and
pause, and what leaves an app heeds it in none; the layout and the texts on the screen are the only
things that are asked for in queries. Neither touches the place of the run, and only the tries of
recognition are counted so that a count may overrun, right after a look at the stop. -/

namespace CheckIn

/-- Calls that look at the screen and do nothing to it. -/
def Phone.Call.IsLook : Phone.Call → Prop
  | findAll _ | detect => True
  | _ => False

namespace Run

open Process

/-- Notes that are neither of the progress of a task nor messages of errors. -/
def Note.IsPlain : Note → Prop
  | .progress _ | .message .error _ => False
  | _ => True

variable {σ : Type} {W : Surroundings interface σ} {R : σ → Prop}

/-- What a look may ask for. -/
def Request.OfLook (heed : Bool) : Request → Prop
  | .query c h _ => c.IsLook ∧ h = heed
  | .now | .isStopped => True
  | _ => False

/-- What a lookup may ask for. -/
def Request.OfLookup (heed : Bool) : Request → Prop
  | .query c h _ => c.IsLook ∧ h = heed
  | .pause _ h => h = heed
  | .now | .isStopped | .overflow => True
  | _ => False

/-- What recognition may ask for. A count may overrun in the states of `R`. -/
def Request.OfRecognition (R : σ → Prop) (x : σ) : Request → Prop
  | .query c heed _ => c.IsLook ∧ heed = true
  | .pause _ heed => heed = true
  | .tell note => note.IsPlain
  | .now | .isStopped | .overflow => True
  | .overrun => R x
  | _ => False

/-- What a step may ask for while it is carried out. All its notes are plain. A count may overrun in
the states of `R`. -/
def Request.OfAction (R : σ → Prop) (x : σ) : Request → Prop
  | .call c => ¬c.IsLook
  | .query c heed _ => c.IsLook ∧ heed = true
  | .pause _ heed => heed = true
  | .tell note => note.IsPlain
  | .now | .localTime | .isStopped | .overflow => True
  | .overrun => R x
  | _ => False

/-- What a step may ask for, with what is told of it. A count may overrun in the states of `R`. -/
def Request.OfStep (R : σ → Prop) (x : σ) : Request → Prop
  | .call c => ¬c.IsLook
  | .query c heed _ => c.IsLook ∧ heed = true
  | .pause _ heed => heed = true
  | .sleep _ | .wallClock | .claim | .forget | .release => False
  | .overrun => R x
  | _ => True

/-- What looking for a card among the recent apps and swiping it away may ask for. -/
def Request.OfDismissal : Request → Prop
  | .call .recents | .call (.swipe _ _ _) => True
  | .query c heed _ => c.IsLook ∧ heed = false
  | .pause _ heed => heed = false
  | .now | .sleep _ | .isStopped | .overflow => True
  | _ => False

/-- What waiting for an app to come to the foreground may ask for. All its notes are plain. -/
def Request.OfWatch : Request → Prop
  | .call .foreground | .sleep _ | .isStopped => True
  | .tell note => note.IsPlain
  | _ => False

/-- What leaving an app may ask for. All its notes are plain. -/
def Request.OfTeardown : Request → Prop
  | .query c heed _ => c.IsLook ∧ heed = false
  | .pause _ heed => heed = false
  | .tell note => note.IsPlain
  | .wallClock | .localTime | .claim | .forget | .release | .overrun => False
  | _ => True

/-- What a run may ask for once it has its place, and before it gives it back. -/
def Request.OfRun (R : σ → Prop) (x : σ) : Request → Prop
  | .claim | .forget | .release => False
  | .overrun => R x
  | _ => True

theorem Request.OfLook.ofLookup {heed : Bool} : ∀ {q : Request}, q.OfLook heed → q.OfLookup heed
  | .query _ _ _, h => h
  | .now, _ | .isStopped, _ => trivial

theorem Request.OfLookup.ofAction {x : σ} : ∀ {q : Request}, q.OfLookup true → q.OfAction R x
  | .query _ _ _, h | .pause _ _, h => h
  | .now, _ | .isStopped, _ | .overflow, _ => trivial

theorem Request.OfLookup.ofDismissal : ∀ {q : Request}, q.OfLookup false → q.OfDismissal
  | .query _ _ _, h | .pause _ _, h => h
  | .now, _ | .isStopped, _ | .overflow, _ => trivial

theorem Request.OfDismissal.ofTeardown : ∀ {q : Request}, q.OfDismissal → q.OfTeardown
  | .query _ _ _, h | .pause _ _, h => h
  | .call _, _ | .now, _ | .sleep _, _ | .isStopped, _ | .overflow, _ => trivial

theorem Request.OfWatch.ofTeardown : ∀ {q : Request}, q.OfWatch → q.OfTeardown
  | .tell _, h => h
  | .call _, _ | .sleep _, _ | .isStopped, _ => trivial

theorem Request.OfRecognition.ofAction {x : σ} :
    ∀ {q : Request}, q.OfRecognition R x → q.OfAction R x
  | .query _ _ _, h | .pause _ _, h | .tell _, h | .overrun, h => h
  | .now, _ | .isStopped, _ | .overflow, _ => trivial

theorem Request.OfAction.ofStep {x : σ} : ∀ {q : Request}, q.OfAction R x → q.OfStep R x
  | .call _, h | .query _ _ _, h | .pause _ _, h | .overrun, h => h
  | .now, _ | .localTime, _ | .isStopped, _ | .tell _, _ | .overflow, _ => trivial

theorem Request.OfStep.ofRun {x : σ} : ∀ {q : Request}, q.OfStep R x → q.OfRun R x
  | .call _, _ | .query _ _ _, _ | .now, _ | .localTime, _ | .pause _ _, _ | .isStopped, _
  | .tell _, _ | .overflow, _ => trivial
  | .overrun, h => h

theorem Request.OfRun.overrun {x : σ} {q : Request} (h : q.OfRun R x) (hq : q = .overrun) :
    R x := by
  subst hq
  exact h

theorem Request.OfTeardown.ofRun {x : σ} : ∀ {q : Request}, q.OfTeardown → q.OfRun R x
  | .call _, _ | .query _ _ _, _ | .now, _ | .sleep _, _ | .pause _ _, _ | .isStopped, _
  | .tell _, _ | .overflow, _ => trivial

/-- After a look that finds no stop, a count overruns only in the states of `R`. -/
def OverrunsIn (W : Surroundings interface σ) (R : σ → Prop) : Prop :=
  ∀ x y z, W x .isStopped false y → W y .overflow () z → R z

/-! ### Attempts -/

section Attempts

variable {P : σ → Request → Prop}

theorem check_asks (h : ∀ x, P x .isStopped) : (Attempt.check true).run.Asks W P := by
  refine Asks.bind_run (Asks.lift_run (asks_perform h)) fun stopped => ?_
  cases stopped <;> exact asks_done _

theorem call_asks {c : Phone.Call} (h : ∀ x, P x (.call c)) : (Attempt.call c).run.Asks W P := by
  refine Asks.bind_run (Asks.lift_run (asks_perform h)) fun answer => ?_
  cases answer <;> exact asks_done _

theorem pause_asks {duration : Nat} {heed : Bool} (h : ∀ x, P x (.pause duration heed)) :
    (Attempt.pause duration heed).run.Asks W P := by
  refine Asks.bind_run (Asks.lift_run (asks_perform h)) fun stopped => ?_
  cases stopped <;> exact asks_done _

theorem query_asks {c : Phone.Call} {heed : Bool} {deadline : Option Nat}
    (h : ∀ x, P x (.query c heed deadline)) : (Attempt.query c heed deadline).run.Asks W P := by
  refine Asks.bind_run (Asks.lift_run (asks_perform h)) fun answer => ?_
  cases answer <;> exact asks_done _

theorem checked_asks {fits : Prop} [Decidable fits] (h : ∀ x, P x .overflow) :
    (Part.checked fits).Asks W P :=
  Asks.ite (fun _ => asks_done _) fun _ => asks_perform h

/-- After a look at the stop, a count goes on to the next number, or overruns. -/
theorem check_countOn_asks {α : Type} {count : Nat} {f : Nat → Attempt α}
    (hP : ∀ x, P x .isStopped) (hP' : ∀ x, P x .overflow)
    (h : OverrunsIn W (P · .overrun) ∨ count + 1 < UInt32.size)
    (hf : (f (count + 1)).run.Asks W P) :
    (Attempt.check true >>= fun _ => Attempt.countOn count >>= f).run.Asks W P := by
  intro x
  refine ⟨hP x, fun stopped y hy => ?_⟩
  cases stopped with
  | true => trivial
  | false =>
    change (Attempt.countOn count >>= f).run.AsksFrom W P y
    unfold Attempt.countOn
    split
    · exact hf y
    · exact ⟨hP' y, fun _ z hz => ⟨h.resolve_right ‹_› x y z hy hz, fun e => Empty.elim e⟩⟩

theorem tell_asks {note : Note} (h : ∀ x, P x (.tell note)) : (Part.tell note).Asks W P :=
  asks_perform h

theorem outcome_asks {α : Type} {x : Attempt α} (h : x.run.Asks W P) : x.outcome.run.Asks W P :=
  Asks.lift_run (p := x.run) h

end Attempts

/-! ### Lookups -/

namespace Lookup

variable {heed : Bool}

theorem candidates_asks (deadline : Nat) (atom : Atom) :
    (candidates heed deadline atom).run.Asks W fun _ => Request.OfLook heed := by
  unfold candidates
  refine Asks.bind_run (query_asks fun _ => ⟨trivial, rfl⟩) fun found => ?_
  rcases found with _ | _ | _ <;> exact asks_done _

theorem narrow_asks (deadline : Nat) (atoms : List Atom) (kept : List Screen.Element) :
    (narrow heed deadline atoms kept).run.Asks W fun _ => Request.OfLook heed := by
  induction atoms generalizing kept with
  | nil => exact asks_done _
  | cons atom atoms ih =>
    unfold narrow
    refine Asks.bind_run (candidates_asks deadline atom) fun found => ?_
    rcases found with _ | found
    · exact asks_done _
    · dsimp only
      split
      · exact asks_done _
      · exact ih _

theorem look_asks (deadline : Nat) (selector : Selector) :
    (look heed deadline selector).run.Asks W fun _ => Request.OfLook heed := by
  unfold look
  split
  · exact Asks.bind_run (candidates_asks deadline _) fun _ => asks_done _
  · exact asks_done _
  · refine Asks.bind_run (candidates_asks deadline _) fun found => ?_
    rcases found with _ | _ | _
    · exact asks_done _
    · exact asks_done _
    · exact Asks.bind_run (narrow_asks deadline _ _) fun _ => asks_done _

theorem check_asks (heed : Bool) :
    (Attempt.check heed).run.Asks W fun _ => Request.OfLook heed := by
  cases heed
  · exact asks_done _
  · exact Run.check_asks fun _ => trivial

theorem poll_asks (l : Lookup) (selector : Selector) (deadline fuel : Nat) (looks : UInt32) :
    (l.poll selector heed deadline fuel looks).run.Asks W fun _ => Request.OfLookup heed := by
  induction fuel generalizing looks with
  | zero => exact asks_done _
  | succ fuel ih =>
    unfold poll
    refine Asks.bind_run ((check_asks heed).mono fun _ _ => Request.OfLook.ofLookup) fun _ => ?_
    refine Asks.bind_run (Asks.lift_run (checked_asks fun _ => trivial)) fun _ => ?_
    refine Asks.bind_run (Asks.lift_run (asks_perform fun _ => trivial)) fun started => ?_
    refine Asks.bind_run ?_ fun found => ?_
    · exact (look_asks _ selector).mono fun _ _ => Request.OfLook.ofLookup
    cases found with
    | some element => exact asks_done _
    | none =>
      refine Asks.bind_run (Asks.lift_run (asks_perform fun _ => trivial)) fun now => ?_
      split
      · exact asks_done _
      · exact Asks.bind_run (pause_asks fun _ => rfl) fun _ => ih _

theorem resolve_asks (l : Lookup) (selector : Selector) (timeout : Nat) :
    (l.resolve selector timeout heed).run.Asks W fun _ => Request.OfLookup heed :=
  Asks.bind_run (Asks.lift_run (asks_perform fun _ => trivial)) fun _ => l.poll_asks selector _ _ _

theorem findOnce_asks (l : Lookup) (selector : Selector) (timeout : Nat) :
    (l.findOnce selector timeout heed).run.Asks W fun _ => Request.OfLookup heed := by
  refine Asks.mono (P := fun _ => Request.OfLook heed) ?_ fun _ _ => Request.OfLook.ofLookup
  refine Asks.bind_run (check_asks heed) fun _ => ?_
  exact Asks.bind_run (Asks.lift_run (asks_perform fun _ => trivial)) fun _ => look_asks _ selector

end Lookup

/-! ### Recognition -/

namespace Recognition

theorem tries_asks (r : Recognition) (target : String) (giveUp : Option Nat) (left attempts : Nat)
    (h : OverrunsIn W R ∨ attempts + left + 1 < UInt32.size) :
    (r.tries target giveUp left attempts).run.Asks W (Request.OfRecognition R) := by
  induction left generalizing attempts with
  | zero =>
    unfold tries
    refine check_countOn_asks (fun _ => trivial) (fun _ => trivial) (h.imp_right (by omega)) ?_
    refine Asks.bind_run (query_asks fun _ => ⟨trivial, rfl⟩) fun answer => ?_
    dsimp only
    split
    · refine Asks.bind_run (Asks.lift_run (checked_asks fun _ => trivial)) fun _ => ?_
      exact Asks.bind_run (Asks.lift_run (tell_asks fun _ => trivial)) fun _ => asks_done _
    · exact Asks.bind_run (Asks.lift_run (asks_perform fun _ => trivial)) fun _ => asks_done _
  | succ left ih =>
    unfold tries
    refine check_countOn_asks (fun _ => trivial) (fun _ => trivial) (h.imp_right (by omega)) ?_
    refine Asks.bind_run (query_asks fun _ => ⟨trivial, rfl⟩) fun answer => ?_
    dsimp only
    split
    · refine Asks.bind_run (Asks.lift_run (checked_asks fun _ => trivial)) fun _ => ?_
      exact Asks.bind_run (Asks.lift_run (tell_asks fun _ => trivial)) fun _ => asks_done _
    · refine Asks.bind_run (Asks.lift_run (asks_perform fun _ => trivial)) fun _ => ?_
      have hpause : (Attempt.pause r.backoff true).run.Asks W (Request.OfRecognition R) :=
        pause_asks fun _ => rfl
      have hnext := Asks.bind_run hpause fun _ => ih (attempts + 1) (h.imp_right (by omega))
      split
      · exact Asks.bind_run (asks_done _) fun _ => hnext
      · exact hnext

theorem matchWith_asks (r : Recognition) (text : String) (retries : UInt32) (budget : Option Nat)
    (h : OverrunsIn W R ∨ retries.toNat + 1 < UInt32.size) :
    (r.matchWith text retries budget).run.Asks W (Request.OfRecognition R) :=
  Asks.bind_run (Asks.lift_run (asks_perform fun _ => trivial)) fun _ =>
    r.tries_asks _ _ _ _ (h.imp_right (by omega))

end Recognition

/-! ### Steps -/

namespace StepRunner

variable (r : StepRunner)

theorem launchApp_asks (package : String) (timeout : Nat) :
    (r.launchApp package timeout).run.Asks W (Request.OfAction R) := by
  unfold launchApp
  refine Asks.bind_run (Asks.lift_run (asks_perform fun _ => id)) fun answer => ?_
  rcases answer with failure | _
  case' error =>
    refine Asks.bind_run (Asks.lift_run (tell_asks fun _ => trivial)) fun _ => ?_
    refine Asks.bind_run (Asks.lift_run (tell_asks fun _ => trivial)) fun _ => ?_
  all_goals
    refine Asks.bind_run (pause_asks fun _ => rfl) fun _ => ?_
    refine Asks.bind_run (Asks.lift_run (tell_asks fun _ => trivial)) fun _ => ?_
    exact Asks.bind_run (call_asks fun _ => id) fun _ => pause_asks fun _ => rfl

theorem clickElement_asks (e : Screen.Element) :
    (clickElement e).run.Asks W (Request.OfAction R) := by
  unfold clickElement
  refine Asks.ite_run (fun _ => call_asks fun _ => id) fun _ => ?_
  exact Asks.bind_run (Asks.lift_run (checked_asks fun _ => trivial)) fun _ => call_asks fun _ => id

theorem clickRecognised_asks (selector : Selector) (timeout : Nat)
    (h : OverrunsIn W R ∨
      r.recognition.retries.toNat + 1 < UInt32.size) :
    (r.clickRecognised selector timeout).run.Asks W (Request.OfAction R) := by
  unfold clickRecognised
  split
  · exact asks_done _
  · next text _ =>
    have hmatch := (r.recognition.matchWith_asks text _ none h).mono
      fun _ _ => Request.OfRecognition.ofAction
    refine Asks.bind_run (outcome_asks hmatch) fun found => ?_
    rcases found with (_ | _ | _ | _ | _ | _) | found
    case ok => exact call_asks fun _ => id
    all_goals exact asks_done _

theorem clickFound_asks (selector : Selector) (timeout : Nat) (found : Option Screen.Element)
    (h : OverrunsIn W R ∨
      r.recognition.retries.toNat + 1 < UInt32.size) :
    (r.clickFound selector timeout found).run.Asks W (Request.OfAction R) := by
  unfold clickFound
  split
  · exact clickElement_asks _
  · split
    · exact r.clickRecognised_asks selector timeout h
    · exact asks_done _

theorem swipe_asks (start finish : Screen.Point) (duration : Nat) :
    (r.swipe start finish duration).run.Asks W (Request.OfAction R) := by
  unfold swipe
  refine Asks.bind_run (Asks.lift_run (asks_perform fun _ => trivial)) fun _ => ?_
  refine Asks.bind_run (call_asks fun _ => id) fun _ => ?_
  refine Asks.bind_run (Asks.lift_run (asks_perform fun _ => trivial)) fun _ => ?_
  exact pause_asks fun _ => rfl

theorem swipeTimes_asks (start finish : Screen.Point) (duration count : Nat) :
    (r.swipeTimes start finish duration count).run.Asks W (Request.OfAction R) := by
  induction count with
  | zero => exact asks_done _
  | succ count ih =>
    unfold swipeTimes
    refine Asks.bind_run (check_asks fun _ => trivial) fun _ => ?_
    exact Asks.bind_run (r.swipe_asks start finish duration) fun _ => ih

theorem pageSwipe_asks (up : Bool) (count : UInt32) (duration : Nat) :
    (r.pageSwipe up count duration).run.Asks W (Request.OfAction R) := by
  unfold pageSwipe
  refine Asks.bind_run (call_asks fun _ => id) fun size => ?_
  refine Asks.bind_run (Asks.lift_run (checked_asks fun _ => trivial)) fun _ => ?_
  dsimp only
  split <;> exact r.swipeTimes_asks _ _ _ _

theorem clickRounds_asks (selector : Selector) (dwell rounds clicks : Nat) :
    (r.clickRounds selector dwell rounds clicks).run.Asks W (Request.OfAction R) := by
  induction rounds generalizing clicks with
  | zero => exact Asks.lift_run (tell_asks fun _ => trivial)
  | succ rounds ih =>
    unfold clickRounds
    have hfind : (r.lookup.findOnce selector r.lookup.interval true).run.Asks W _ :=
      r.lookup.findOnce_asks selector r.lookup.interval
    refine Asks.bind_run (hfind.mono fun _ _ => Request.OfLookup.ofAction) fun found => ?_
    cases found with
    | none => exact Asks.lift_run (tell_asks fun _ => trivial)
    | some e =>
      refine Asks.bind_run (outcome_asks (clickElement_asks e)) fun result => ?_
      cases result with
      | error e =>
        refine Asks.bind_run (Asks.lift_run (tell_asks fun _ => trivial)) fun _ => ?_
        exact Asks.bind_run (pause_asks fun _ => rfl) fun _ => ih clicks
      | ok _ =>
        refine Asks.bind_run (pause_asks fun _ => rfl) fun _ => ?_
        refine Asks.bind_run (call_asks fun _ => id) fun _ => ?_
        exact Asks.bind_run (pause_asks fun _ => rfl) fun _ => ih (clicks + 1)

/-- The tries of recognition in an action can be counted. -/
def IsCountable : Action → Prop
  | .click _ _ | .waitClick _ _ => r.recognition.retries.toNat + 1 < UInt32.size
  | .clickImage _ retries _ => retries.toNat + 1 < UInt32.size
  | _ => True

theorem act_asks (task : Task) (action : Action)
    (h : OverrunsIn W R ∨ r.IsCountable action) :
    (r.act task action).run.Asks W (Request.OfAction R) := by
  have hfind (selector timeout) := (r.lookup.findOnce_asks (W := W) selector timeout).mono
    fun x _ => Request.OfLookup.ofAction (R := R) (x := x)
  have hresolve (selector timeout) := (r.lookup.resolve_asks (W := W) selector timeout).mono
    fun x _ => Request.OfLookup.ofAction (R := R) (x := x)
  cases action with
  | launch timeout => exact r.launchApp_asks task.package timeout
  | click selector timeout =>
    exact Asks.bind_run (hfind selector timeout) fun found => r.clickFound_asks _ _ found h
  | waitClick selector timeout =>
    exact Asks.bind_run (hresolve selector timeout) fun found => r.clickFound_asks _ _ found h
  | waitExists selector timeout =>
    refine Asks.bind_run (hresolve selector timeout) fun found => ?_
    cases found <;> exact asks_done _
  | clickImage text retries timeout =>
    have hmatch := (r.recognition.matchWith_asks text retries timeout h).mono
      fun _ _ => Request.OfRecognition.ofAction
    exact Asks.bind_run hmatch fun _ => call_asks fun _ => id
  | swipe start finish duration => exact r.swipe_asks start finish duration
  | swipeUp count duration => exact r.pageSwipe_asks true count duration
  | swipeDown count duration => exact r.pageSwipe_asks false count duration
  | back => exact Asks.bind_run (call_asks fun _ => id) fun _ => pause_asks fun _ => rfl
  | home => exact Asks.bind_run (call_asks fun _ => id) fun _ => pause_asks fun _ => rfl
  | sleep duration => exact pause_asks fun _ => rfl
  | input selector text timeout =>
    refine Asks.bind_run (hresolve selector timeout) fun found => ?_
    cases found
    · exact asks_done _
    · exact call_asks fun _ => id
  | screenshot template =>
    refine Asks.bind_run (Asks.lift_run (asks_perform fun _ => trivial)) fun _ => ?_
    refine Asks.bind_run (call_asks fun _ => id) fun _ => ?_
    exact Asks.lift_run (tell_asks fun _ => trivial)
  | clickLoop selector dwell => exact r.clickRounds_asks selector dwell _ _

/-- The tries of recognition can be counted in every step that can be carried out. -/
def AreCountable (task : Task) : Prop :=
  ∀ step ∈ task.steps, ∀ action, step.action = .ok action → r.IsCountable action

theorem runStep_asks (task : Task) (step : Step)
    (h : OverrunsIn W R ∨
      ∀ action, step.action = .ok action → r.IsCountable action) :
    (r.runStep task step).run.Asks W (Request.OfAction R) := by
  unfold runStep
  split
  · exact r.act_asks task _ (h.imp_right fun h => h _ ‹_›)
  · exact asks_done _

theorem runStepsFrom_asks (task : Task) (taskIndex total delay index : Nat) (steps : List Step)
    (h : OverrunsIn W R ∨
      ∀ step ∈ steps, ∀ action, step.action = .ok action → r.IsCountable action) :
    (r.runStepsFrom task taskIndex total delay index steps).run.Asks W (Request.OfStep R) := by
  induction steps generalizing index with
  | nil => exact asks_done _
  | cons step later ih =>
    have hlater := ih (index + 1) (h.imp_right fun h s hs => h s (List.mem_cons_of_mem _ hs))
    have hstep := (r.runStep_asks task step
      (h.imp_right fun h => h step (List.mem_cons_self ..))).mono fun _ _ => Request.OfAction.ofStep
    unfold runStepsFrom
    refine Asks.bind_run (Asks.lift_run (asks_perform fun _ => trivial)) fun stopped => ?_
    cases stopped with
    | true => exact asks_done _
    | false =>
      refine Asks.bind_run (Asks.lift_run (tell_asks fun _ => trivial)) fun _ => ?_
      refine Asks.bind_run (Asks.lift_run (tell_asks fun _ => trivial)) fun _ => ?_
      refine Asks.bind_run (Asks.lift_run (p := (r.runStep task step).run) hstep) fun result => ?_
      cases result with
      | error e =>
        refine Asks.ite_run (fun _ => ?_) fun _ => asks_done _
        exact Asks.bind_run (Asks.lift_run (tell_asks fun _ => trivial)) fun _ => asks_done _
      | ok _ =>
        refine Asks.bind_run (Asks.lift_run (asks_perform fun _ => rfl)) fun stopped => ?_
        cases later with
        | nil => exact hlater
        | cons next later => exact Asks.ite_run (fun _ => asks_done _) fun _ => hlater

theorem runSteps_asks (task : Task) (taskIndex : Nat)
    (h : OverrunsIn W R ∨ r.AreCountable task) :
    (r.runSteps task taskIndex).run.Asks W (Request.OfStep R) :=
  Asks.bind_run (r.runStepsFrom_asks _ _ _ _ _ _ h) fun _ => asks_done _

end StepRunner

/-! ### Teardown -/

namespace Teardown

variable (t : Teardown)

theorem callFor_asks {P : σ → Request → Prop} (what : String) {c : Phone.Call}
    (h : ∀ x, P x (.call c)) : (callFor what c).run.Asks W P := by
  refine Asks.bind_run (Asks.lift_run (asks_perform h)) fun answer => ?_
  cases answer <;> exact asks_done _

theorem findCard_asks (label missing : String) :
    (t.findCard label missing).run.Asks W fun _ => Request.OfDismissal := by
  unfold findCard
  refine Asks.bind_run (callFor_asks _ fun _ => trivial) fun _ => ?_
  refine Asks.bind_run (Asks.lift_run (asks_perform fun _ => trivial)) fun _ => ?_
  refine Asks.bind_run ((t.lookup.resolve_asks _ _).mono fun _ _ => Request.OfLookup.ofDismissal)
    fun found => ?_
  cases found <;> exact asks_done _

theorem dismiss_asks (task : Task) :
    (t.dismiss task).run.Asks W fun _ => Request.OfDismissal := by
  unfold dismiss
  refine Asks.bind_run (t.findCard_asks _ _) fun card => ?_
  refine Asks.ite_run (fun _ => asks_done _) fun _ => ?_
  refine Asks.bind_run (Asks.lift_run (checked_asks fun _ => trivial)) fun _ => ?_
  refine Asks.bind_run (callFor_asks _ fun _ => trivial) fun _ => ?_
  exact Asks.lift_run (asks_perform fun _ => trivial)

theorem foregroundIs_asks (package : String) :
    (foregroundIs package).Asks W fun _ => Request.OfWatch := by
  refine (asks_perform fun _ => trivial).bind fun answer => ?_
  cases answer <;> exact asks_done _

theorem confirm_asks (left attempt : Nat) :
    (t.confirm left attempt).run.Asks W fun _ => Request.OfWatch := by
  induction left generalizing attempt with
  | zero => exact asks_done _
  | succ left ih =>
    unfold confirm
    refine Asks.bind_run (Asks.lift_run (asks_perform fun _ => trivial)) fun stopped => ?_
    refine Asks.ite_run (fun _ => asks_done _) fun _ => ?_
    refine Asks.bind_run (Asks.lift_run (foregroundIs_asks _)) fun isThere => ?_
    refine Asks.ite_run (fun _ => Asks.lift_run (tell_asks fun _ => trivial)) fun _ => ?_
    refine Asks.ite_run (fun _ => ?_) fun _ => ih _
    exact Asks.bind_run (Asks.lift_run (asks_perform fun _ => trivial)) fun _ => ih _

theorem returnToHost_asks : t.returnToHost.run.Asks W fun _ => Request.OfTeardown := by
  unfold returnToHost
  refine Asks.bind_run (Asks.lift_run ((foregroundIs_asks _).mono fun _ _ =>
    Request.OfWatch.ofTeardown)) fun isThere => ?_
  refine Asks.ite_run (fun _ => asks_done _) fun _ => ?_
  refine Asks.bind_run ((t.findCard_asks _ _).mono fun _ _ => Request.OfDismissal.ofTeardown)
    fun card => ?_
  refine Asks.bind_run (Asks.lift_run (checked_asks fun _ => trivial)) fun _ => ?_
  exact Asks.bind_run (callFor_asks _ fun _ => trivial) fun _ =>
    (t.confirm_asks _ _).mono fun _ _ => Request.OfWatch.ofTeardown

theorem dismissOrHome_asks (task : Task) :
    (t.dismissOrHome task).Asks W fun _ => Request.OfTeardown := by
  unfold dismissOrHome
  refine ((t.dismiss_asks task).mono fun _ _ => Request.OfDismissal.ofTeardown).bind
    fun result => ?_
  cases result with
  | ok _ => exact asks_done _
  | error e =>
    refine (tell_asks fun _ => trivial).bind fun _ => ?_
    refine Asks.bind ((asks_perform fun _ => trivial).bind fun answer => ?_) fun more => ?_
    · cases answer <;> exact asks_done _
    · exact (asks_perform fun _ => trivial).bind fun _ => asks_done _

theorem run_asks (task : Task) : (t.run task).Asks W fun _ => Request.OfTeardown := by
  unfold run
  refine Asks.ite (fun _ => asks_done _) fun _ => ?_
  refine (t.dismissOrHome_asks task).bind fun dismissal => ?_
  refine t.returnToHost_asks.bind fun result => ?_
  cases result <;>
    exact (Asks.forM fun w _ => tell_asks fun _ => trivial).bind fun _ => asks_done _

end Teardown

/-! ### Runs -/

namespace Scheduler

variable (s : Scheduler)

theorem execute_asks (task : Task) (index : Nat)
    (h : OverrunsIn W R ∨ s.steps.AreCountable task) :
    (s.execute task index).run.Asks W (Request.OfStep R) := by
  have hsteps := s.steps.runSteps_asks task index h
  unfold execute
  have hlaunch := (s.steps.launchApp_asks (W := W) task.package s.launchTimeout).mono
    fun x _ => Request.OfAction.ofStep (R := R) (x := x)
  refine Asks.ite_run (fun _ => ?_) fun _ => hsteps
  refine Asks.bind_run (Asks.lift_run hlaunch) fun result => ?_
  cases result with
  | ok _ => exact hsteps
  | error e =>
    refine Asks.ite_run (fun _ => ?_) fun _ => asks_done _
    exact Asks.bind_run (Asks.lift_run (tell_asks fun _ => trivial)) fun _ => asks_done _

theorem refuse_asks (task : Task) (index : Nat) (ledger : Ledger) :
    (refuse task index ledger).Asks W (Request.OfRun R) := by
  refine (asks_perform fun _ => trivial).bind fun now => ?_
  refine (tell_asks fun _ => trivial).bind fun _ => ?_
  exact (tell_asks fun _ => trivial).bind fun _ => asks_done _

theorem settle_asks (task : Task) (index started : Nat) (ledger : Ledger)
    (outcome : Except StepFailure Nat) :
    (settle task index started ledger outcome).Asks W (Request.OfRun R) := by
  cases outcome with
  | ok steps =>
    refine (asks_perform fun _ => trivial).bind fun now => ?_
    refine (tell_asks fun _ => trivial).bind fun _ => ?_
    refine (asks_perform fun _ => trivial).bind fun _ => ?_
    exact (tell_asks fun _ => trivial).bind fun _ => asks_done _
  | error failure =>
    refine (asks_perform fun _ => trivial).bind fun now => ?_
    dsimp only
    split
    · refine (tell_asks fun _ => trivial).bind fun _ => ?_
      exact (tell_asks fun _ => trivial).bind fun _ => asks_done _
    · exact (tell_asks fun _ => trivial).bind fun _ => asks_done _

theorem runTask_asks (task : Task) (index total : Nat) (ledger : Ledger)
    (h : OverrunsIn W R ∨ s.steps.AreCountable task) :
    (s.runTask task index total ledger).Asks W (Request.OfRun R) := by
  have hexecute := (s.execute_asks task index h).mono fun _ _ => Request.OfStep.ofRun
  have hleave := (s.teardown.run_asks (W := W) task).mono
    fun x _ => Request.OfTeardown.ofRun (R := R) (x := x)
  unfold runTask
  refine (asks_perform fun _ => trivial).bind fun started => ?_
  refine (asks_perform fun _ => trivial).bind fun _ => ?_
  refine (tell_asks fun _ => trivial).bind fun _ => (tell_asks fun _ => trivial).bind fun _ => ?_
  refine hexecute.bind fun outcome => (settle_asks _ _ _ _ _).bind fun ledger => ?_
  exact hleave.bind fun _ => asks_done _

theorem stopRemaining_asks (index total : Nat) (ledger : Ledger) :
    (stopRemaining index total ledger).Asks W (Request.OfRun R) := by
  refine Asks.bind (Asks.forM fun i _ => tell_asks fun _ => trivial) fun _ => ?_
  exact (tell_asks fun _ => trivial).bind fun _ => asks_done _

theorem runTasks_asks (total index : Nat) (tasks : List Task) (ledger : Ledger)
    (h : OverrunsIn W R ∨ ∀ task ∈ tasks, s.steps.AreCountable task) :
    (s.runTasks total index tasks ledger).Asks W (Request.OfRun R) := by
  induction tasks generalizing index ledger with
  | nil => exact asks_done _
  | cons task tasks ih =>
    have hrest (ledger) :=
      ih (index + 1) ledger (h.imp_right fun h t ht => h t (List.mem_cons_of_mem _ ht))
    have htask := s.runTask_asks task index total ledger
      (h.imp_right fun h => h task (List.mem_cons_self ..))
    unfold runTasks
    refine (asks_perform fun _ => trivial).bind fun stopped => ?_
    cases stopped with
    | true => exact stopRemaining_asks _ _ _
    | false =>
      refine Asks.ite nofun fun _ => ?_
      refine Asks.ite (fun _ => (refuse_asks _ _ _).bind hrest) fun _ => ?_
      refine htask.bind fun ledger => Asks.ite (fun _ => ?_) fun _ => hrest ledger
      exact (asks_perform fun _ => trivial).bind fun _ => hrest ledger

theorem runAccepted_asks (tasks : List Task)
    (h : OverrunsIn W R ∨ ∀ task ∈ tasks, s.steps.AreCountable task) :
    (s.runAccepted tasks).Asks W (Request.OfRun R) := by
  unfold runAccepted
  refine (asks_perform fun _ => trivial).bind fun started => ?_
  refine (tell_asks fun _ => trivial).bind fun _ => ?_
  refine Asks.bind (Asks.forM fun _ _ => tell_asks fun _ => trivial) fun _ => ?_
  refine (s.runTasks_asks _ _ _ _ h).bind fun ledger => ?_
  refine (asks_perform fun _ => trivial).bind fun finished => ?_
  exact (tell_asks fun _ => trivial).bind fun _ => asks_done _

theorem run_asks (tasks : List Task)
    (h : OverrunsIn W R ∨ ∀ task ∈ tasks, s.steps.AreCountable task) :
    (s.run tasks).Asks W fun x q => q = .overrun → R x := by
  have haccepted := (s.runAccepted_asks tasks h).mono fun _ _ => Request.OfRun.overrun
  have hleaves (result : RunResult) :
      (do Part.forget; Part.release; pure (some result) : Part _).Asks W
        fun x q => q = .overrun → R x :=
    Asks.bind (asks_perform fun _ h => by cases h) fun _ =>
      Asks.bind (asks_perform fun _ h => by cases h) fun _ => asks_done _
  unfold run
  refine Asks.bind (asks_perform fun _ h => by cases h) fun isFree => ?_
  cases isFree with
  | false => exact asks_done _
  | true =>
    refine Asks.ite (fun _ => ?_) fun h => absurd rfl h
    dsimp only
    split
    · refine (tell_asks fun _ h => by cases h).bind fun _ => ?_
      exact hleaves RunResult.empty
    · exact haccepted.bind hleaves

end Scheduler

/-- The scheduler of a file that leaves out all settings. -/
def Scheduler.standard : Scheduler := .ofFile ⟨.standard, .standard, .standard, []⟩

/-- A task that looks for a text on the screen, up to four times, and taps it. -/
def imageTask : Task :=
  ⟨7, "Daily", "com.example.daily", "Daily", true, none,
    [⟨"sign in", "click_image", .ok (.clickImage "Sign in" 3 none)⟩], none, none⟩

theorem imageTask_areCountable : Scheduler.standard.steps.AreCountable imageTask := by
  intro step hstep action haction
  rw [List.mem_singleton.mp hstep] at haction
  cases haction
  show (3 : UInt32).toNat + 1 < UInt32.size
  decide

end Run

end CheckIn

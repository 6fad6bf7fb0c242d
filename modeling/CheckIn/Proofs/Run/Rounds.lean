import CheckIn.Proofs.Run.Attempt
import CheckIn.Run.Steps

/-! Rounds of steps. A stretch is what happens to a part of a run from its beginning to its end.
Each step of a task that is carried out makes a round: no stop is there, the step is announced, it
has its stretch, and a delay follows it. `Rounds` tells the whole log of a task's steps in this way,
up to the first step that fails or to a stop that is seen between two of them. -/

namespace CheckIn.Run

open Process

/-- A part of a run that has come to its end: when it began and ended, and its log and result. -/
structure Stretch (α : Type) where
  began : Nat
  log : Log
  result : α
  ended : Nat

namespace Stretch

variable {α : Type}

/-- The stretch is one of the part `p`. -/
def Of (u : Stretch α) (stop : Option Nat) (p : Part α) : Prop :=
  Goes stop p u.began u.log u.result u.ended

/-- The exchanges of the stretch in which a call was issued. -/
def calls (u : Stretch α) : Log := Run.calls u.log

end Stretch

/-- A stretch of something that may fail. -/
abbrev Stretch.OfAttempt : Type := Stretch (Except StepError Unit)

variable {stop : Option Nat} {before after : Nat} {log : Log}

/-- What comes before a step is carried out: no stop is there, and the step is announced. -/
def announcement (task : Task) (taskIndex total index : Nat) (step : Step) (now : Nat) : Log :=
  let place := s!"{index + 1}/{total}"
  let told := s!"[{task.name}] executing step {place}: {step.description}"
  let progress : Progress :=
    ⟨taskIndex, min (stepPercent index total) 100, s!"step {place}", .running⟩
  [⟨now, .isStopped, false, now⟩, ⟨now, .tell (.progress progress), (), now⟩,
    ⟨now, .tell (.message .info told), (), now⟩]

def failureText (task : Task) (total index : Nat) (step : Step) (e : StepError) : String :=
  let place := s!"{index + 1}/{total}"
  s!"[{task.name}] step {place} '{step.description}' failed: {e.message}"

/-- What is told of a failure, if anything. -/
def complaint (isTold : Prop) [Decidable isTold] (text : String) (now : Nat) : Log :=
  let note : Exchange := ⟨now, .tell (.message .error text), (), now⟩
  if isTold then [note] else []

theorem calls_announcement {task : Task} {taskIndex total index now : Nat} {step : Step} :
    calls (announcement task taskIndex total index step now) = [] := rfl

theorem calls_complaint {isTold : Prop} [Decidable isTold] {text : String} {now : Nat} :
    calls (complaint isTold text now) = [] := by
  unfold complaint
  split <;> rfl

/-- A failure that is thrown after it was told, or without a word, comes at once. -/
theorem goes_say_throw {α : Type} {isTold : Prop} [Decidable isTold] {text : String}
    {failure : StepFailure} {result : Except StepFailure α}
    (h : Goes stop (do
      if isTold then Part.say .error text
      throw failure : ExceptT StepFailure (Process interface) α).run before log result after) :
    log = complaint isTold text before ∧ after = before ∧ result = .error failure := by
  unfold complaint
  by_cases hTold : isTold
  · rw [if_pos hTold] at h
    obtain ⟨_, _, _, rfl, rfl, rfl, rfl, rfl⟩ := h
    exact ⟨(if_pos hTold).symm, rfl, rfl⟩
  · rw [if_neg hTold] at h
    obtain ⟨rfl, rfl, rfl⟩ := h
    exact ⟨(if_neg hTold).symm, rfl, rfl⟩

/-- Steps carried out one after the other from place `index` on, with all that is asked and told
between them. -/
inductive Rounds (stop : Option Nat) (r : StepRunner) (task : Task) (taskIndex total delay : Nat) :
    (index : Nat) → List Step → (before : Nat) → Log → List Stretch.OfAttempt →
    Except StepFailure Unit → (after : Nat) → Prop
  | done {index before : Nat} :
      Rounds stop r task taskIndex total delay index [] before [] [] (.ok ()) before
  | stopped {index before : Nat} {step : Step} {later : List Step} :
      raised stop before = true →
      Rounds stop r task taskIndex total delay index (step :: later) before
        [⟨before, .isStopped, true, before⟩] []
        (.error ⟨index, step.description, .stopped, index⟩) before
  | failed {index : Nat} {step : Step} {later : List Step} {u : Stretch.OfAttempt}
      {e : StepError} :
      raised stop u.began = false → u.Of stop (r.runStep task step).run → u.result = .error e →
      Rounds stop r task taskIndex total delay index (step :: later) u.began
        (announcement task taskIndex total index step u.began ++ (u.log ++
          complaint (!e.isStop) (failureText task total index step e) u.ended))
        [u] (.error ⟨index, step.description, e, index + 1⟩) u.ended
  /-- The stop is seen in the delay before the next step. -/
  | cut {index after : Nat} {step next : Step} {later : List Step} {u : Stretch.OfAttempt} :
      raised stop u.began = false → u.Of stop (r.runStep task step).run → u.result = .ok () →
      Meets stop u.ended (.pause delay true) true after →
      Rounds stop r task taskIndex total delay index (step :: next :: later) u.began
        (announcement task taskIndex total index step u.began ++ (u.log ++
          [⟨u.ended, .pause delay true, true, after⟩]))
        [u] (.error ⟨index + 1, next.description, .stopped, index + 1⟩) after
  /-- After the last step, a stop in the delay does not show. -/
  | passed {index between after : Nat} {step : Step} {later : List Step} {u : Stretch.OfAttempt}
      {stopped : Bool} {log : Log} {us : List Stretch.OfAttempt}
      {result : Except StepFailure Unit} :
      raised stop u.began = false → u.Of stop (r.runStep task step).run → u.result = .ok () →
      Meets stop u.ended (.pause delay true) stopped between → (stopped = true → later = []) →
      Rounds stop r task taskIndex total delay (index + 1) later between log us result after →
      Rounds stop r task taskIndex total delay index (step :: later) u.began
        (announcement task taskIndex total index step u.began ++ (u.log ++
          ⟨u.ended, .pause delay true, stopped, between⟩ :: log))
        (u :: us) result after

/-- What happens when steps are carried out is made of rounds. -/
theorem rounds_of_goes {r : StepRunner} {task : Task} {taskIndex total delay index : Nat}
    {steps : List Step} {result : Except StepFailure Unit}
    (h : Goes stop (r.runStepsFrom task taskIndex total delay index steps).run before log result
      after) :
    ∃ us, Rounds stop r task taskIndex total delay index steps before log us result after := by
  induction steps generalizing index before log with
  | nil =>
    obtain ⟨rfl, rfl, rfl⟩ := h
    exact ⟨[], .done⟩
  | cons step later ih =>
    obtain ⟨stopped, now, log, rfl, ⟨hs, ht⟩, h⟩ := h
    subst hs ht
    cases hr : raised stop now with
    | true =>
      rw [hr] at h
      obtain ⟨rfl, rfl, rfl⟩ := h
      exact ⟨[], .stopped hr⟩
    | false =>
      rw [hr] at h
      obtain ⟨_, _, log, rfl, rfl, _, began, log, rfl, rfl, h⟩ := h
      obtain ⟨log₁, stepped, ended, log₂, rfl, hstep, h⟩ :=
        (goes_lift_bind_run (p := (r.runStep task step).run)).mp h
      cases stepped with
      | error e =>
        obtain ⟨rfl, rfl, rfl⟩ := goes_say_throw h
        exact ⟨[_], .failed (u := ⟨began, log₁, .error e, _⟩) hr hstep rfl⟩
      | ok _ =>
        let u : Stretch.OfAttempt := ⟨began, log₁, .ok (), ended⟩
        obtain ⟨stopped, between, log₃, rfl, hm, h⟩ := h
        cases later with
        | nil =>
          obtain ⟨us, hrounds⟩ := ih h
          exact ⟨u :: us, .passed (u := u) hr hstep rfl hm (fun _ => rfl) hrounds⟩
        | cons next later =>
          cases stopped with
          | false =>
            obtain ⟨us, hrounds⟩ := ih h
            exact ⟨u :: us, .passed (u := u) hr hstep rfl hm nofun hrounds⟩
          | true =>
            obtain ⟨rfl, rfl, rfl⟩ := h
            exact ⟨[u], .cut (u := u) hr hstep rfl hm⟩

theorem rounds_of_goes_runSteps {r : StepRunner} {task : Task} {taskIndex : Nat}
    {result : Except StepFailure Nat}
    (h : Goes stop (r.runSteps task taskIndex).run before log result after) :
    ∃ us walked, Rounds stop r task taskIndex task.steps.length (task.stepDelay.getD r.stepDelay) 0
        task.steps before log us walked after ∧
      result = walked.map fun _ => task.steps.length := by
  unfold StepRunner.runSteps at h
  rcases goes_bind_run.mp h with ⟨e, rfl, hsteps⟩ | ⟨log₁, _, between, log₂, rfl, hsteps, hlast⟩
  · obtain ⟨us, hrounds⟩ := rounds_of_goes hsteps
    exact ⟨us, .error e, hrounds, rfl⟩
  · obtain ⟨us, hrounds⟩ := rounds_of_goes hsteps
    obtain ⟨rfl, rfl, rfl⟩ := hlast
    rw [List.append_nil]
    exact ⟨us, .ok (), hrounds, rfl⟩

end CheckIn.Run

import CheckIn.Proofs.Run.Failures
import CheckIn.Proofs.Run.Walk

/-! The steps of a task in sequence. What a run of them reports, the number of steps carried out and
the step it failed at, is what happened: the steps carried out are the first ones, each once and in
order, and no step follows one that failed. -/

namespace CheckIn.Run

open Process

variable {stop : Option Nat} {before after : Nat} {log : Log} {r : StepRunner} {task : Task}
  {step : Step}

/-- The number of steps carried out, as the result has it. -/
def executed : Except StepFailure Nat → Nat
  | .ok count => count
  | .error failure => failure.stepsExecuted

/-! ### Single steps -/

namespace Stretch

variable {u : OfAttempt}

theorem Of.malformed {fault : StepFault} (h : u.Of stop (r.runStep task step).run)
    (hstep : step.action = .error fault) :
    u.log = [] ∧ u.ended = u.began ∧ u.result = .error (.malformed fault.message) := by
  unfold Stretch.Of StepRunner.runStep at h
  rw [hstep] at h
  obtain ⟨hlog, hresult, hended⟩ := h
  exact ⟨hlog, hended, hresult⟩

theorem Of.not_malformed {action : Action} (h : u.Of stop (r.runStep task step).run)
    (hstep : step.action = .ok action) (reason : String) :
    u.result ≠ .error (.malformed reason) := by
  intro hresult
  unfold Stretch.Of StepRunner.runStep at h
  rw [hstep, hresult] at h
  exact r.act_failsOnly task action _ _ _ _ _ h

end Stretch

/-! ### All steps of a task -/

/-- What the result says of steps that came to `results`, one after the other. -/
structure Told (stop : Option Nat) (steps : List Step) (results : List (Except StepError Unit))
    (result : Except StepFailure Nat) (after : Nat) : Prop where
  length_eq : results.length = executed result
  ok : ∀ count, result = .ok count →
    count = steps.length ∧ results = List.replicate count (.ok ())
  failed : ∀ failure, result = .error failure → failure.error ≠ .stopped →
    failure.stepIndex + 1 = failure.stepsExecuted ∧
      results = List.replicate failure.stepIndex (.ok ()) ++ [.error failure.error]
  /-- A stop is seen in a step or between two of them. -/
  stopped : ∀ failure, result = .error failure → failure.error = .stopped →
    failure.stepIndex + 1 = failure.stepsExecuted ∧
        results = List.replicate failure.stepIndex (.ok ()) ++ [.error .stopped] ∨
      failure.stepIndex = failure.stepsExecuted ∧ raised stop after ∧
        results = List.replicate failure.stepIndex (.ok ())
  place : ∀ failure, result = .error failure →
    ∃ step, steps[failure.stepIndex]? = some step ∧ failure.description = step.description
  /-- Once all steps have passed, a stop comes too late. -/
  late : results = List.replicate steps.length (.ok ()) → result = .ok steps.length

theorem map_result_eq_replicate {us : List Stretch.OfAttempt} (h : ∀ u ∈ us, u.result = .ok ()) :
    us.map (·.result) = List.replicate us.length (.ok ()) := by
  rw [List.map_eq_replicate_iff]
  exact h

theorem Ending.told {steps : List Step} {us : List Stretch.OfAttempt}
    {walked : Except StepFailure Unit} (h : Ending stop 0 steps us after walked) :
    Told stop steps (us.map (·.result)) (walked.map fun _ => steps.length) after := by
  cases h with
  | complete hlength hus =>
    have hresults := map_result_eq_replicate hus
    rw [hlength] at hresults
    refine ⟨by simp [hlength, executed, Except.map], ?_, nofun, nofun, nofun, fun _ => rfl⟩
    rintro _ ⟨⟩
    exact ⟨rfl, hresults⟩
  | @within passed u step e hus hpassed hu _ hstep =>
    have hresults : us.map (·.result) = List.replicate passed.length (.ok ()) ++ [.error e] := by
      rw [hus, List.map_append, map_result_eq_replicate hpassed, List.map_singleton, hu]
    rw [hresults, Nat.zero_add]
    refine ⟨by simp [executed, Except.map], nofun, ?_, ?_, ?_, ?_⟩
    · rintro _ ⟨⟩ -
      exact ⟨rfl, rfl⟩
    · rintro _ ⟨⟩ ⟨⟩
      exact .inl ⟨rfl, rfl⟩
    · rintro _ ⟨⟩
      exact ⟨step, hstep, rfl⟩
    · intro hall
      have hmem : .error e ∈ List.replicate steps.length (Except.ok ()) := by simp [← hall]
      cases List.eq_of_mem_replicate hmem
  | between hus hraised hstep =>
    rw [map_result_eq_replicate hus, Nat.zero_add]
    refine ⟨by simp [executed, Except.map], nofun, ?_, ?_, ?_, ?_⟩
    · rintro _ ⟨⟩ hne
      exact absurd rfl hne
    · rintro _ ⟨⟩ -
      exact .inr ⟨rfl, hraised, rfl⟩
    · rintro _ ⟨⟩
      exact ⟨_, hstep, rfl⟩
    · intro hall
      have hlength : us.length = steps.length := by simpa using congrArg List.length hall
      obtain ⟨hlt, -⟩ := List.getElem?_eq_some_iff.mp hstep
      omega

/-- The steps of a task, carried out in the stretches `us`, and what the result says of it. -/
structure Sequence (stop : Option Nat) (r : StepRunner) (task : Task) (taskIndex before : Nat)
    (log : Log) (us : List Stretch.OfAttempt) (result : Except StepFailure Nat) (after : Nat) :
    Prop where
  /-- Nothing happens but the stretches and what is told and waited for between them. -/
  rounds : ∃ walked, Rounds stop r task taskIndex task.steps.length
    (task.stepDelay.getD r.stepDelay) 0 task.steps before log us walked after
  calls_eq : calls log = us.flatMap Stretch.calls
  le : us.length ≤ task.steps.length
  of_steps : ∀ x ∈ us.zip task.steps, x.1.Of stop (r.runStep task x.2).run
  serial : us.Pairwise fun u v => u.ended ≤ v.began
  told : Told stop task.steps (us.map (·.result)) result after
  malformed : ∀ x ∈ us.zip task.steps, ∀ fault, x.2.action = .error fault →
    x.1.log = [] ∧ x.1.result = .error (.malformed fault.message)
  not_malformed : ∀ x ∈ us.zip task.steps, ∀ action, x.2.action = .ok action →
    ∀ reason, x.1.result ≠ .error (.malformed reason)

theorem sequence_of_goes {taskIndex : Nat} {result : Except StepFailure Nat}
    (h : Goes stop (r.runSteps task taskIndex).run before log result after) :
    ∃ us, Sequence stop r task taskIndex before log us result after := by
  obtain ⟨us, walked, hrounds, rfl⟩ := rounds_of_goes_runSteps h
  obtain ⟨hwalk, hcalls⟩ := hrounds.walk
  obtain ⟨hle, hof⟩ := hwalk.zip_of
  refine ⟨us, ⟨walked, hrounds⟩, hcalls, hle, fun x hx => (hof x hx).2, hwalk.serial.2,
    hwalk.ending.told, ?_, ?_⟩
  · intro x hx fault hfault
    obtain ⟨hlog, -, hresult⟩ := (hof x hx).2.malformed hfault
    exact ⟨hlog, hresult⟩
  · intro x hx action haction
    exact (hof x hx).2.not_malformed haction

/-- Whatever the phone does and whenever a stop comes, the steps of a task are carried out from the
first on, each once and in order, up to one that fails or a stop. The result has their number, and
the place and the error of the one that failed. -/
theorem runSteps_sequenced (r : StepRunner) (task : Task) (taskIndex : Nat) (stop : Option Nat)
    (before : Nat) :
    (r.AreCountable task → Surely stop (fun _ => True) (r.runSteps task taskIndex).run before) ∧
      ∀ log result after, Goes stop (r.runSteps task taskIndex).run before log result after →
        ∃ us, Sequence stop r task taskIndex before log us result after := by
  constructor
  · intro hcountable
    have hasks : (r.runSteps task taskIndex).run.Asks (Meets stop)
        (Request.OfStep fun _ => False) := r.runSteps_asks task taskIndex (.inr hcountable)
    refine surely_of_no_overrun (hasks.mono ?_) fun _ _ _ _ => trivial
    rintro now q hq rfl
    exact hq.elim
  · intro log result after hgoes
    exact sequence_of_goes hgoes

/-- A task that waits. -/
def napTask : Task :=
  ⟨8, "Nap", "com.example.nap", "Nap", true, none,
    [⟨"wait", "sleep", .ok (.sleep 10)⟩], some 100, none⟩

/-- A stop in the delay after the only step comes too late for it. -/
theorem runSteps_sequenced_napTask : Scheduler.standard.steps.AreCountable napTask ∧
    ∃ log us, Goes (some 50) (Scheduler.standard.steps.runSteps napTask 0).run 0 log (.ok 1) 50 ∧
      Sequence (some 50) Scheduler.standard.steps napTask 0 0 log us (.ok 1) 50 ∧
      us.map (·.result) = [.ok ()] := by
  have hcountable : Scheduler.standard.steps.AreCountable napTask := by
    intro step hstep action haction
    rw [List.mem_singleton.mp hstep] at haction
    cases haction
    trivial
  have hgoes : ∃ log,
      Goes (some 50) (Scheduler.standard.steps.runSteps napTask 0).run 0 log (.ok 1) 50 := by
    have hpassed : Meets (some 50) 0 (.pause 10 true) false 10 := ⟨rfl, by decide⟩
    have hcut : Meets (some 50) 10 (.pause 100 true) true 50 := ⟨rfl, 50, rfl, by decide, rfl⟩
    have htold (note) : Meets (some 50) 0 (.tell note) () 0 := rfl
    have hend : Goes (some 50) (.done (.ok 1)) 50 [] (.ok 1 : Except StepFailure Nat) 50 :=
      ⟨rfl, rfl, rfl⟩
    exact ⟨_, .ask ⟨rfl, rfl⟩ (.ask (htold _) (.ask (htold _) (.ask hpassed (.ask hcut hend))))⟩
  obtain ⟨log, hgoes⟩ := hgoes
  obtain ⟨us, h⟩ := (runSteps_sequenced _ _ _ _ _).2 log _ _ hgoes
  exact ⟨hcountable, log, us, hgoes, h, (h.told.ok 1 rfl).2⟩

end CheckIn.Run

import CheckIn.Proofs.Run.Rounds
import CheckIn.Run.Schedule

/-! The shape of what happens to a task. `Walk` relates the steps of a task to the stretches of the
run in which they were carried out, `Execution` puts the clean launch before them, and whatever
happens when a task is executed has such a shape, with no calls beside those of its stretches. -/

namespace CheckIn.Run

open Process

variable {stop : Option Nat} {before after : Nat} {log : Log}

/-- Steps carried out one after the other from place `index` on, each in a stretch, up to the first
that fails or until a stop is there before a step. Time may pass after each step. -/
inductive Walk (stop : Option Nat) (r : StepRunner) (task : Task) : (index : Nat) → List Step →
    (before : Nat) → List Stretch.OfAttempt → Except StepFailure Unit → (after : Nat) → Prop
  | done {index before : Nat} : Walk stop r task index [] before [] (.ok ()) before
  | stopped {index before : Nat} {step : Step} {later : List Step} :
      raised stop before = true →
      Walk stop r task index (step :: later) before []
        (.error ⟨index, step.description, .stopped, index⟩) before
  | failed {index : Nat} {step : Step} {later : List Step} {u : Stretch.OfAttempt}
      {e : StepError} :
      raised stop u.began = false → u.Of stop (r.runStep task step).run → u.result = .error e →
      Walk stop r task index (step :: later) u.began [u]
        (.error ⟨index, step.description, e, index + 1⟩) u.ended
  | passed {index between after : Nat} {step : Step} {later : List Step} {u : Stretch.OfAttempt}
      {us : List Stretch.OfAttempt} {result : Except StepFailure Unit} :
      raised stop u.began = false → u.Of stop (r.runStep task step).run → u.result = .ok () →
      u.ended ≤ between → Walk stop r task (index + 1) later between us result after →
      Walk stop r task index (step :: later) u.began (u :: us) result after

theorem Walk.le {r : StepRunner} {task : Task} {index : Nat} {steps : List Step}
    {us : List Stretch.OfAttempt} {result : Except StepFailure Unit}
    (h : Walk stop r task index steps before us result after) : before ≤ after := by
  induction h with
  | done | stopped _ => exact Nat.le_refl _
  | failed _ hu _ => exact hu.le
  | passed _ hu _ hle _ ih => exact Nat.le_trans hu.le (Nat.le_trans hle ih)

/-- The stretches of a walk follow one another in time. -/
theorem Walk.serial {r : StepRunner} {task : Task} {index : Nat} {steps : List Step}
    {us : List Stretch.OfAttempt} {result : Except StepFailure Unit}
    (h : Walk stop r task index steps before us result after) :
    (∀ u ∈ us, before ≤ u.began ∧ u.ended ≤ after) ∧
      us.Pairwise fun u v => u.ended ≤ v.began := by
  induction h with
  | done | stopped _ => exact ⟨nofun, .nil⟩
  | @failed _ _ _ u _ _ _ _ =>
    refine ⟨fun v hv => ?_, List.pairwise_singleton _ _⟩
    rw [List.mem_singleton.mp hv]
    exact ⟨Nat.le_refl _, Nat.le_refl _⟩
  | @passed _ between after _ _ u us _ _ hu _ hle hwalk ih =>
    constructor
    · intro v hv
      rcases List.mem_cons.mp hv with rfl | hv
      · exact ⟨Nat.le_refl _, Nat.le_trans hle hwalk.le⟩
      · have hbegan : u.began ≤ between := Nat.le_trans hu.le hle
        exact ⟨Nat.le_trans hbegan (ih.1 v hv).1, (ih.1 v hv).2⟩
    · exact .cons (fun v hv => Nat.le_trans hle (ih.1 v hv).1) ih.2

/-- The stretches of a walk are those of the first steps, and no stop was there when they began. -/
theorem Walk.zip_of {r : StepRunner} {task : Task} {index : Nat} {steps : List Step}
    {us : List Stretch.OfAttempt} {result : Except StepFailure Unit}
    (h : Walk stop r task index steps before us result after) :
    us.length ≤ steps.length ∧ ∀ x ∈ us.zip steps,
      raised stop x.1.began = false ∧ x.1.Of stop (r.runStep task x.2).run := by
  induction h with
  | done | stopped _ => exact ⟨Nat.zero_le _, fun _ hx => absurd hx List.not_mem_nil⟩
  | failed hr hu _ =>
    refine ⟨Nat.le_add_left 1 _, fun x hx => ?_⟩
    rw [List.zip_cons_cons, List.zip_nil_left, List.mem_singleton] at hx
    rw [hx]
    exact ⟨hr, hu⟩
  | passed hr hu _ _ _ ih =>
    refine ⟨Nat.succ_le_succ ih.1, fun x hx => ?_⟩
    rcases List.mem_cons.mp hx with rfl | hx
    · exact ⟨hr, hu⟩
    · exact ih.2 x hx

/-- How steps from place `index` on end, and what the result says of it: after all of them, in one
that fails, or before one where a stop is there. -/
inductive Ending (stop : Option Nat) (index : Nat) (steps : List Step)
    (us : List Stretch.OfAttempt) (after : Nat) : Except StepFailure Unit → Prop
  | complete : us.length = steps.length → (∀ u ∈ us, u.result = .ok ()) →
      Ending stop index steps us after (.ok ())
  | within {passed : List Stretch.OfAttempt} {u : Stretch.OfAttempt} {step : Step}
      {e : StepError} : us = passed ++ [u] → (∀ v ∈ passed, v.result = .ok ()) →
      u.result = .error e → u.ended = after → steps[passed.length]? = some step →
      Ending stop index steps us after
        (.error ⟨index + passed.length, step.description, e, index + passed.length + 1⟩)
  | between {step : Step} : (∀ u ∈ us, u.result = .ok ()) → raised stop after = true →
      steps[us.length]? = some step →
      Ending stop index steps us after
        (.error ⟨index + us.length, step.description, .stopped, index + us.length⟩)

/-- A step that passes comes before all that follows it. -/
theorem Ending.cons {index : Nat} {step : Step} {later : List Step} {u : Stretch.OfAttempt}
    {us : List Stretch.OfAttempt} {result : Except StepFailure Unit}
    (hok : u.result = .ok ()) (h : Ending stop (index + 1) later us after result) :
    Ending stop index (step :: later) (u :: us) after result := by
  cases h with
  | complete hlength hus =>
    exact .complete (congrArg (· + 1) hlength) (List.forall_mem_cons.mpr ⟨hok, hus⟩)
  | @within passed v _ e hus hpassed hv hended hstep =>
    have hplace : index + 1 + passed.length = index + (u :: passed).length := by
      rw [List.length_cons]
      omega
    rw [hplace]
    exact .within (congrArg (u :: ·) hus) (List.forall_mem_cons.mpr ⟨hok, hpassed⟩) hv hended hstep
  | between hus hraised hstep =>
    have hplace : index + 1 + us.length = index + (u :: us).length := by
      rw [List.length_cons]
      omega
    rw [hplace]
    exact .between (List.forall_mem_cons.mpr ⟨hok, hus⟩) hraised hstep

theorem Walk.ending {r : StepRunner} {task : Task} {index : Nat} {steps : List Step}
    {us : List Stretch.OfAttempt} {result : Except StepFailure Unit}
    (h : Walk stop r task index steps before us result after) :
    Ending stop index steps us after result := by
  induction h with
  | done => exact .complete rfl nofun
  | stopped hraised => exact .between nofun hraised rfl
  | @failed _ _ _ u _ _ _ he =>
    exact .within (List.nil_append [u]).symm nofun he rfl rfl
  | passed _ _ hok _ _ ih => exact ih.cons hok

/-- How a walk ends: after all steps, before a step where a stop is there, or in a step that
fails. -/
theorem Walk.ended {r : StepRunner} {task : Task} {index : Nat} {steps : List Step}
    {us : List Stretch.OfAttempt} {result : Except StepFailure Unit}
    (h : Walk stop r task index steps before us result after) :
    (result = .ok () ∧ us.length = steps.length ∧ ∀ u ∈ us, u.result = .ok ()) ∨
      ∃ failure, result = .error failure ∧
        ((failure.error = .stopped ∧ raised stop after ∧ ∀ u ∈ us, u.result = .ok ()) ∨
          ∃ us' u, us = us' ++ [u] ∧ u.result = .error failure.error ∧ u.ended = after ∧
            ∀ v ∈ us', v.result = .ok ()) := by
  cases h.ending with
  | complete hlength hus => exact .inl ⟨rfl, hlength, hus⟩
  | within hus hpassed hu hended _ =>
    exact .inr ⟨_, rfl, .inr ⟨_, _, hus, hu, hended, hpassed⟩⟩
  | between hus hraised _ => exact .inr ⟨_, rfl, .inl ⟨rfl, hraised, hus⟩⟩

/-- The stretches of rounds are a walk, and hold all their calls. -/
theorem Rounds.walk {r : StepRunner} {task : Task} {taskIndex total delay index : Nat}
    {steps : List Step} {us : List Stretch.OfAttempt} {result : Except StepFailure Unit}
    (h : Rounds stop r task taskIndex total delay index steps before log us result after) :
    Walk stop r task index steps before us result after ∧ calls log = us.flatMap Stretch.calls := by
  induction h with
  | done => exact ⟨.done, rfl⟩
  | stopped hr => exact ⟨.stopped hr, rfl⟩
  | failed hr hu he =>
    refine ⟨.failed hr hu he, ?_⟩
    rw [calls_append, calls_append, calls_announcement, calls_complaint]
    rfl
  | @cut _ after _ _ _ u hr hu hok hm =>
    have hle : u.ended ≤ after := hm.le
    have hraised : raised stop after = true := by
      obtain ⟨-, t, ht, -, rfl⟩ := hm
      exact raised_iff.mpr ⟨t, ht, Nat.le_max_right ..⟩
    refine ⟨.passed hr hu hok hle (.stopped hraised), ?_⟩
    rw [calls_append, calls_append, calls_announcement]
    rfl
  | passed hr hu hok hm _ _ ih =>
    refine ⟨.passed hr hu hok hm.le ih.1, ?_⟩
    rw [calls_append, calls_append, calls_announcement, calls_cons_of_quiet (by trivial), ih.2]
    rfl

/-- A task executed: its app is launched if that is wanted, and its steps are carried out unless
the launch fails. -/
inductive Execution (stop : Option Nat) (s : Scheduler) (task : Task) : (before : Nat) →
    (launch : Option Stretch.OfAttempt) → (steps : List Stretch.OfAttempt) →
    Except StepFailure Nat → (after : Nat) → Prop
  | plain {before after : Nat} {us : List Stretch.OfAttempt} {result : Except StepFailure Unit} :
      ¬(s.teardown.settings.enabled ∧ s.teardown.wantsLaunch task) →
      Walk stop s.steps task 0 task.steps before us result after →
      Execution stop s task before none us (result.map fun _ => task.steps.length) after
  | launched {after : Nat} {u : Stretch.OfAttempt} {us : List Stretch.OfAttempt}
      {result : Except StepFailure Unit} :
      s.teardown.settings.enabled ∧ s.teardown.wantsLaunch task →
      u.Of stop (s.steps.launchApp task.package s.launchTimeout).run → u.result = .ok () →
      Walk stop s.steps task 0 task.steps u.ended us result after →
      Execution stop s task u.began (some u) us (result.map fun _ => task.steps.length) after
  | grounded {u : Stretch.OfAttempt} {e : StepError} :
      s.teardown.settings.enabled ∧ s.teardown.wantsLaunch task →
      u.Of stop (s.steps.launchApp task.package s.launchTimeout).run → u.result = .error e →
      Execution stop s task u.began (some u) []
        (.error ⟨0, s!"clean launch of {task.package}", e, 0⟩) u.ended

theorem Execution.le {s : Scheduler} {task : Task} {launch : Option Stretch.OfAttempt}
    {us : List Stretch.OfAttempt} {result : Except StepFailure Nat}
    (h : Execution stop s task before launch us result after) : before ≤ after := by
  cases h with
  | plain _ hwalk => exact hwalk.le
  | launched _ hu _ hwalk => exact Nat.le_trans hu.le hwalk.le
  | grounded _ hu _ => exact hu.le

section Execution

variable {s : Scheduler} {task : Task} {launch : Option Stretch.OfAttempt}
  {us : List Stretch.OfAttempt} {result : Except StepFailure Nat}

/-- The app is launched if that is wanted, at once and in one stretch. -/
theorem Execution.launch_of (h : Execution stop s task before launch us result after) :
    (launch.isSome ↔ s.teardown.settings.enabled ∧ s.teardown.wantsLaunch task) ∧
      ∀ u, launch = some u → u.began = before ∧
        u.Of stop (s.steps.launchApp task.package s.launchTimeout).run := by
  cases h with
  | plain hwants _ => exact ⟨⟨nofun, fun h => absurd h hwants⟩, nofun⟩
  | launched hwants hu _ _ | grounded hwants hu _ =>
    exact ⟨⟨fun _ => hwants, fun _ => rfl⟩, fun _ h => Option.some.inj h ▸ ⟨rfl, hu⟩⟩

/-- The stretches after the launch are those of the first steps. -/
theorem Execution.zip_of (h : Execution stop s task before launch us result after) :
    us.length ≤ task.steps.length ∧ ∀ x ∈ us.zip task.steps,
      raised stop x.1.began = false ∧ x.1.Of stop (s.steps.runStep task x.2).run := by
  cases h with
  | plain _ hwalk | launched _ _ _ hwalk => exact hwalk.zip_of
  | grounded => exact ⟨Nat.zero_le _, fun _ hx => absurd hx List.not_mem_nil⟩

/-- The stretches of an execution follow one another in time. -/
theorem Execution.serial (h : Execution stop s task before launch us result after) :
    (∀ u ∈ launch.toList ++ us, before ≤ u.began ∧ u.ended ≤ after) ∧
      (launch.toList ++ us).Pairwise fun u v => u.ended ≤ v.began := by
  cases h with
  | plain _ hwalk => exact hwalk.serial
  | @launched _ u _ _ _ hu _ hwalk =>
    constructor
    · intro v hv
      rcases List.mem_cons.mp hv with rfl | hv
      · exact ⟨Nat.le_refl _, hwalk.le⟩
      · exact ⟨Nat.le_trans hu.le (hwalk.serial.1 v hv).1, (hwalk.serial.1 v hv).2⟩
    · exact .cons (fun v hv => (hwalk.serial.1 v hv).1) hwalk.serial.2
  | @grounded u _ _ _ _ =>
    refine ⟨fun v hv => ?_, List.pairwise_singleton _ _⟩
    rw [List.mem_singleton.mp hv]
    exact ⟨Nat.le_refl _, Nat.le_refl _⟩

/-- How an execution ends: after all steps, before a step where a stop is there, or in a launch or
a step that fails. -/
theorem Execution.ended (h : Execution stop s task before launch us result after) :
    (result = .ok task.steps.length ∧ us.length = task.steps.length ∧
        ∀ u ∈ launch.toList ++ us, u.result = .ok ()) ∨
      ∃ failure, result = .error failure ∧
        ((failure.error = .stopped ∧ raised stop after ∧
            ∀ u ∈ launch.toList ++ us, u.result = .ok ()) ∨
          ∃ us' u, launch.toList ++ us = us' ++ [u] ∧ u.result = .error failure.error ∧
            u.ended = after ∧ ∀ v ∈ us', v.result = .ok ()) := by
  cases h with
  | plain _ hwalk =>
    rcases hwalk.ended with ⟨rfl, hlength, hus⟩ | ⟨failure, rfl, hend⟩
    · exact .inl ⟨rfl, hlength, hus⟩
    · exact .inr ⟨failure, rfl, hend⟩
  | @launched _ u us _ _ _ hok hwalk =>
    have hall {vs : List Stretch.OfAttempt} (hvs : ∀ v ∈ vs, v.result = .ok ()) :
        ∀ v ∈ u :: vs, v.result = .ok () :=
      List.forall_mem_cons.mpr ⟨hok, hvs⟩
    rcases hwalk.ended with
      ⟨rfl, hlength, hus⟩ | ⟨failure, rfl, ⟨hstop, hr, hus⟩ | ⟨us', v, rfl, hv, hended, hus'⟩⟩
    · exact .inl ⟨rfl, hlength, hall hus⟩
    · exact .inr ⟨failure, rfl, .inl ⟨hstop, hr, hall hus⟩⟩
    · exact .inr ⟨failure, rfl, .inr ⟨u :: us', v, rfl, hv, hended, hall hus'⟩⟩
  | @grounded u _ _ _ he => exact .inr ⟨_, rfl, .inr ⟨[], u, rfl, he, rfl, nofun⟩⟩

end Execution

theorem walk_of_goes_runSteps {r : StepRunner} {task : Task} {taskIndex : Nat}
    {result : Except StepFailure Nat}
    (h : Goes stop (r.runSteps task taskIndex).run before log result after) :
    ∃ us walked, Walk stop r task 0 task.steps before us walked after ∧
      result = walked.map (fun _ => task.steps.length) ∧ calls log = us.flatMap Stretch.calls := by
  obtain ⟨us, walked, hrounds, hresult⟩ := rounds_of_goes_runSteps h
  exact ⟨us, walked, hrounds.walk.1, hresult, hrounds.walk.2⟩

/-- What happens when a task is executed is its clean launch and a walk through its steps. -/
theorem execution_of_goes {s : Scheduler} {task : Task} {index : Nat}
    {result : Except StepFailure Nat}
    (h : Goes stop (s.execute task index).run before log result after) :
    ∃ launch us, Execution stop s task before launch us result after ∧
      calls log = (launch.toList ++ us).flatMap Stretch.calls := by
  unfold Scheduler.execute at h
  split at h
  case isFalse hwants =>
    obtain ⟨us, walked, hwalk, rfl, hlog⟩ := walk_of_goes_runSteps h
    exact ⟨none, us, .plain (by simpa using hwants) hwalk, hlog⟩
  case isTrue hwants =>
    obtain ⟨log₁, launched, between, log₂, rfl, hlaunch, h⟩ :=
      (goes_lift_bind_run (p := (s.steps.launchApp task.package s.launchTimeout).run)).mp h
    have hwants := Bool.and_eq_true_iff.mp hwants
    cases launched with
    | ok _ =>
      obtain ⟨us, walked, hwalk, rfl, hlog⟩ := walk_of_goes_runSteps h
      refine ⟨some _, us, .launched (u := ⟨_, log₁, .ok (), _⟩) hwants hlaunch rfl hwalk, ?_⟩
      rw [calls_append, hlog]
      rfl
    | error e =>
      obtain ⟨rfl, rfl, rfl⟩ := goes_say_throw h
      refine ⟨some _, [], .grounded (u := ⟨_, log₁, .error e, _⟩) hwants hlaunch rfl, ?_⟩
      rw [calls_append, calls_complaint]
      rfl

end CheckIn.Run

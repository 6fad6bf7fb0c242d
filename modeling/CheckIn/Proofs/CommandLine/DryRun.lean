import CheckIn.CommandLine.Invocation
import CheckIn.Proofs.Run.Accounts
import CheckIn.Proofs.Run.Leaving
import CheckIn.Proofs.Task.Selecting

/-! What a dry run foretells. It looks at every step of every task and passes if each satisfies its
verb; that a task has no steps is printed, and left to the run to refuse. So after a dry run that
passes, the run is refused for a task without steps, or it begins with the enabled tasks. A step
that satisfies its verb cannot fail as one that does not, whatever the phone does, so no report of
the run tells of such a step. -/

namespace CheckIn

/-! ### Steps -/

/-- A step satisfies its verb. -/
def Step.IsSound (step : Step) : Prop := ∃ action, step.action = .ok action

theorem Task.faultySteps_isEmpty {task : Task} :
    task.faultySteps.isEmpty ↔ ∀ step ∈ task.steps, step.IsSound := by
  rw [faultySteps, List.isEmpty_iff, List.filterMap_eq_nil_iff]
  constructor
  · intro h step hstep
    obtain ⟨i, hi, rfl⟩ := List.mem_iff_getElem.mp hstep
    have hnone := h (task.steps[i], i) (List.mk_mem_zipIdx_iff_getElem?.mpr (by simp))
    dsimp only at hnone
    split at hnone
    · next action haction => exact ⟨action, haction⟩
    · cases hnone
  · rintro h ⟨step, i⟩ hmem
    obtain ⟨action, haction⟩ := h step (List.fst_mem_of_mem_zipIdx hmem)
    simp [haction]

namespace Run

open Process

variable {stop : Option Nat} {before after : Nat} {log : Log} {s : Scheduler} {task : Task}

/-! ### Reports without malformed steps -/

/-- The report tells of no step that could not be dispatched. -/
def Report.IsDispatched (r : Report) : Prop :=
  ∀ reason, r.error ≠ some (StepError.malformed reason).message ∧
    (StepError.malformed reason).message ∉ r.warnings

/-- The first letter of the text of an error, by which its kind can be told. -/
def StepError.initial : StepError → Char
  | elementNotFound _ _ => 'e'
  | recognitionNotFound _ _ => 't'
  | malformed _ => 'c'
  | stopped => 's'
  | appLifecycle _ => 'a'
  | device _ => 'd'

theorem StepError.message_head (e : StepError) : e.message.toList.head? = some e.initial := by
  cases e <;>
  · unfold message
    simp only [String.toList_append, List.head?_append]
    rfl

theorem StepError.message_ne {e : StepError} (h : ∀ reason, e ≠ .malformed reason)
    (reason : String) : e.message ≠ (StepError.malformed reason).message := by
  intro hmessage
  have hinitial : e.initial = 'c' := by
    have hhead := congrArg (·.toList.head?) hmessage
    simp only [message_head, Option.some.injEq] at hhead
    exact hhead
  cases e with
  | malformed r => exact h r rfl
  | _ => simp [initial] at hinitial

theorem StepError.OfAction.ne_malformed {e : StepError} (h : e.OfAction) (reason : String) :
    e ≠ .malformed reason := by
  rintro rfl
  exact h

theorem StepError.OfTeardown.ne_malformed {e : StepError} (h : e.OfTeardown) (reason : String) :
    e ≠ .malformed reason := by
  rintro rfl
  exact h

theorem runStep_failsOnly {r : StepRunner} {step : Step} (h : step.IsSound) :
    FailsOnly StepError.OfAction (r.runStep task step) := by
  obtain ⟨action, haction⟩ := h
  rw [StepRunner.runStep, haction]
  exact r.act_failsOnly task action

theorem Walk.error_ofAction {r : StepRunner} {index : Nat} {steps : List Step}
    {us : List Stretch.OfAttempt} {result : Except StepFailure Unit} {failure : StepFailure}
    (h : Walk stop r task index steps before us result after)
    (hsound : ∀ step ∈ steps, step.IsSound) (hresult : result = .error failure) :
    failure.error.OfAction := by
  induction h with
  | done => cases hresult
  | stopped _ =>
    cases hresult
    trivial
  | @failed _ step _ u e _ hu he =>
    cases hresult
    rw [Stretch.Of, he] at hu
    exact runStep_failsOnly (hsound step (List.mem_cons_self ..)) _ _ _ _ _ hu
  | passed _ _ _ _ _ ih =>
    exact ih (fun step hstep => hsound step (List.mem_cons_of_mem _ hstep)) hresult

theorem Execution.error_ofAction {launch : Option Stretch.OfAttempt}
    {us : List Stretch.OfAttempt} {result : Except StepFailure Nat} {failure : StepFailure}
    (h : Execution stop s task before launch us result after)
    (hsound : ∀ step ∈ task.steps, step.IsSound) (hresult : result = .error failure) :
    failure.error.OfAction := by
  cases h with
  | @plain _ _ _ walked _ hwalk | @launched _ _ _ walked _ _ _ hwalk =>
    cases walked with
    | ok _ => cases hresult
    | error e =>
      cases hresult
      exact hwalk.error_ofAction hsound rfl
  | @grounded u e _ hu he =>
    cases hresult
    rw [Stretch.Of, he] at hu
    exact s.steps.launchApp_failsOnly _ _ _ _ _ _ _ hu

theorem Teardown.run_warns {t : Teardown} {warnings : List StepError}
    (h : Goes stop (t.run task) before log warnings after) :
    ∀ e ∈ warnings, e.OfTeardown := by
  cases henabled : t.settings.enabled with
  | false =>
    unfold run at h
    rw [henabled] at h
    obtain ⟨-, rfl, -⟩ := h
    nofun
  | true =>
    intro e he
    obtain ⟨problem, rfl⟩ := (leaves_of_goes henabled h).warns e he
    trivial

theorem Fate.Of.isDispatched {fate : Fate} (h : fate.Of stop s task) (hsteps : task.steps ≠ [])
    (hsound : ∀ step ∈ task.steps, step.IsSound) : (fate.report task).IsDispatched := by
  intro reason
  cases fate with
  | refused => exact absurd h.2 hsteps
  | dropped => exact ⟨nofun, List.not_mem_nil⟩
  | carried turn =>
    obtain ⟨-, -, hturn⟩ := h
    constructor
    · show (turn.verdict task).error ≠ _
      rw [Turn.verdict]
      cases houtcome : turn.outcome with
      | ok _ => nofun
      | error failure =>
        have haction := hturn.execution.error_ofAction hsound houtcome
        exact fun heq => StepError.message_ne haction.ne_malformed reason (Option.some.inj heq)
    · intro hmem
      obtain ⟨e, he, heq⟩ := List.mem_map.mp hmem
      have hleft := Teardown.run_warns hturn.leaving e he
      exact StepError.message_ne hleft.ne_malformed reason heq

/-- Where all tasks have steps and all steps satisfy their verbs, no report of a run tells of a step
that could not be dispatched. -/
theorem runs_dispatch {tasks : List Task} {r : RunResult}
    (h : Goes stop (s.run tasks) before log (some r) after)
    (htasks : ∀ task ∈ tasks, task.steps ≠ [] ∧ ∀ step ∈ task.steps, step.IsSound) :
    ∀ report ∈ r.reports, report.IsDispatched := by
  obtain ⟨fates, elapsed, hchron, hresult, -⟩ := chronicle_of_run h
  cases hresult
  intro report hreport
  obtain ⟨i, hi, rfl⟩ := List.mem_iff_getElem.mp hreport
  change i < (List.zipWith Fate.report fates tasks).length at hi
  have hi' : i < tasks.length := by
    rw [List.length_zipWith] at hi
    omega
  obtain ⟨fate, hfate, hof⟩ := hchron.fate_of (List.getElem?_eq_getElem hi')
  obtain ⟨hsteps, hsound⟩ := htasks _ (List.getElem_mem hi')
  have hreport : (List.zipWith Fate.report fates tasks)[i]? = some (fate.report tasks[i]) := by
    rw [List.getElem?_zipWith, hfate, List.getElem?_eq_getElem hi']
  obtain ⟨_, heq⟩ := List.getElem?_eq_some_iff.mp hreport
  exact heq ▸ hof.isDispatched hsteps hsound

end Run

namespace CommandLine

open Run

/-! ### Plans -/

theorem isSound_iff {set : TaskSet} :
    isSound set ↔ ∀ task ∈ set.tasks, ∀ step ∈ task.steps, step.IsSound := by
  simp only [isSound, List.all_eq_true, Task.faultySteps_isEmpty]

/-- The exit code of a plan that only prints. -/
def exitCode? : Except Failure Plan → Option Nat
  | .ok (.print _ code) => some code
  | _ => none

/-- Why there is nothing to do. -/
def refusal? : Except Failure Plan → Option String
  | .error f => some f.chain
  | .ok _ => none

/-- A task file with the phone that the options name. -/
def Options.aim (o : Options) (file : TaskFile) : TaskFile :=
  { file with connection.serial := o.serial.or file.connection.serial }

/-- What is told when tasks are skipped, and the tasks after that. -/
def Options.skipIn (o : Options) (file : TaskFile) : List Log.Event × TaskSet :=
  skipAll (.ofFile (o.aim file)) o.skip

theorem plan_of_load {o : Options} {path : String} {contents : Except String (List UInt8)}
    {file : TaskFile} (h : load contents = .ok file) :
    plan o path contents =
      ((o.skipIn file).1, choosePlan o (o.aim file) (o.skipIn file).2) := by
  rw [plan, h]
  rfl

theorem exists_load {o : Options} {path : String} {contents : Except String (List UInt8)}
    {code : Nat} (h : exitCode? (plan o path contents).2 = some code) :
    ∃ file, load contents = .ok file := by
  cases hload : load contents with
  | ok file => exact ⟨file, rfl⟩
  | error fault =>
    rw [plan, hload] at h
    cases h

/-- The options of a dry run. -/
def Options.forDryRun (o : Options) : Options := { o with dryRun := true }

/-- The options of the run of all tasks. -/
def Options.forRun (o : Options) : Options := { o with dryRun := false, task := none }

/-- What a run comes to whose dry run passed, by the tasks that are left after skipping. If these
are to be listed, they are. A task that is enabled and has no steps stops the run before it begins.
Otherwise the run is that of all enabled tasks, and whatever the phone does and whenever the run is
stopped, no report of it tells of a step that could not be dispatched. -/
inductive Foretold (o : Options) (file : TaskFile) (set : TaskSet) : Except Failure Plan → Prop
  | listed : o.list = true → Foretold o file set (.ok (.print (listing set) 0))
  | refused {task : Task} : o.list = false →
      set.enabled.find? (·.steps.isEmpty) = some task →
      Foretold o file set
        (.error (.of s!"Configuration error: task {task.id.toNat} ('{task.name}') has no steps"))
  | selected : o.list = false → (∀ task ∈ set.enabled, task.steps ≠ []) →
      (∀ (stop : Option Nat) (before : Nat) (log : Log) (r : RunResult) (after : Nat),
        Goes stop ((Choice.all set.enabled).run file) before log (some r) after →
          ∀ report ∈ r.reports, report.IsDispatched) →
      Foretold o file set (.ok (.run file (.all set.enabled)))

theorem foretold_of_sound {o : Options} {file : TaskFile} {set : TaskSet}
    (h : o.list = false → isSound set = true) :
    Foretold o file set (choosePlan o.forRun file set) := by
  unfold choosePlan
  cases hlist : o.list with
  | true =>
    rw [show o.forRun.list = true from hlist]
    exact .listed hlist
  | false =>
    rw [show o.forRun.list = false from hlist]
    have hsound := isSound_iff.mp (h hlist)
    rw [show o.forRun.dryRun = false from rfl, show o.forRun.task = none from rfl,
      TaskSet.selectEnabled_eq]
    cases hfind : set.enabled.find? (·.steps.isEmpty) with
    | some task => exact .refused hlist hfind
    | none =>
      have hsteps : ∀ task ∈ set.enabled, task.steps ≠ [] := by
        intro task htask
        simpa using List.find?_eq_none.mp hfind task htask
      refine .selected hlist hsteps fun stop before log r after hgoes => ?_
      refine runs_dispatch hgoes fun task htask => ?_
      have henabled := (List.mem_filter.mp htask).1
      exact ⟨hsteps task henabled, hsound task (List.mem_filter.mp henabled).1⟩

/-- A dry run passes only if every step of every task satisfies its verb. -/
theorem isSound_of_exitCode {o : Options} {file : TaskFile} {set : TaskSet} (hlist : o.list = false)
    (h : exitCode? (choosePlan o.forDryRun file set) = some 0) : isSound set = true := by
  unfold choosePlan at h
  rw [show o.forDryRun.list = false from hlist, show o.forDryRun.dryRun = true from rfl] at h
  dsimp only [exitCode?] at h
  by_contra hfaulty
  rw [if_neg hfaulty] at h
  cases h

/-- The contents of a file with a text. -/
def written (text : String) : Except String (List UInt8) := .ok text.toUTF8.data.toList

/-- A task without steps. -/
def idleTask : String := "[[task]]\nid = 1\nname = \"A\"\npackage = \"a\"\n"

/-- A dry run passes over a task without steps, for which the run is refused. -/
theorem dryRun_passes_idleTask :
    exitCode? (plan Options.unset.forDryRun standardPath (written idleTask)).2 = some 0 ∧
      refusal? (plan Options.unset.forRun standardPath (written idleTask)).2 =
        some "Configuration error: task 1 ('A') has no steps" := by
  decide +kernel

/-- Whatever a task file says and whichever tasks are skipped, a dry run that exits with 0 foretells
what the run of all tasks with the same options comes to. -/
theorem dryRun_foretells (o : Options) (path : String) (contents : Except String (List UInt8))
    (h : exitCode? (plan o.forDryRun path contents).2 = some 0) :
    ∃ file, load contents = .ok file ∧
      (plan o.forRun path contents).1 = (plan o.forDryRun path contents).1 ∧
      Foretold o (o.aim file) (o.skipIn file).2 (plan o.forRun path contents).2 := by
  obtain ⟨file, hload⟩ := exists_load h
  rw [plan_of_load hload] at h
  refine ⟨file, hload, ?_, ?_⟩
  · rw [plan_of_load hload, plan_of_load hload]
    rfl
  · rw [plan_of_load hload]
    exact foretold_of_sound fun hlist => isSound_of_exitCode hlist h

/-- A task that goes back once. -/
def backTask : String := idleTask ++ "[[task.steps]]\naction = \"back\"\n"

/-- All that the steps of a task do is going back. -/
def goesBack (task : Task) : Bool :=
  task.steps.all fun step => match step.action with
    | .ok .back => true
    | _ => false

theorem load_backTask : ∃ file, load (written backTask) = .ok file ∧
    (TaskSet.ofFile file).enabled.length = 1 ∧ (TaskSet.ofFile file).enabled.all goesBack := by
  have hload : ((load (written backTask)).toOption.any fun file =>
      (TaskSet.ofFile file).enabled.length == 1 && (TaskSet.ofFile file).enabled.all goesBack) =
        true := by
    decide +kernel
  cases hfile : load (written backTask) with
  | error _ =>
    rw [hfile] at hload
    cases hload
  | ok file =>
    rw [hfile] at hload
    obtain ⟨hone, hback⟩ := Bool.and_eq_true_iff.mp hload
    exact ⟨file, rfl, beq_iff_eq.mp hone, hback⟩

theorem areCountable_of_goesBack {r : StepRunner} {task : Task} (h : goesBack task = true) :
    r.AreCountable task := by
  intro step hstep action haction
  have hback := List.all_eq_true.mp h step hstep
  rw [haction] at hback
  cases action with
  | back => trivial
  | _ => cases hback

/-- The run that a dry run foretells takes place, with a report of its task. -/
theorem dryRun_foretells_backTask :
    exitCode? (plan Options.unset.forDryRun standardPath (written backTask)).2 = some 0 ∧
      ∃ file tasks log r after,
        (plan Options.unset.forRun standardPath (written backTask)).2 =
            .ok (.run file (.all tasks)) ∧
          Goes none ((Choice.all tasks).run file) 0 log (some r) after ∧ r.reports.length = 1 ∧
            ∀ report ∈ r.reports, report.IsDispatched := by
  have hpasses :
      exitCode? (plan Options.unset.forDryRun standardPath (written backTask)).2 = some 0 := by
    decide +kernel
  have hbegins : refusal? (plan Options.unset.forRun standardPath (written backTask)).2 = none := by
    decide +kernel
  obtain ⟨file, hload, -, hforetold⟩ :=
    dryRun_foretells .unset standardPath (written backTask) hpasses
  obtain ⟨_, hload', hone, hback⟩ := load_backTask
  cases hload.symm.trans hload'
  generalize (plan Options.unset.forRun standardPath (written backTask)).2 = foretold
    at hforetold hbegins ⊢
  cases hforetold with
  | listed hlist => cases hlist
  | refused => cases hbegins
  | selected _ _ hdispatched =>
    have htasks :
        (TaskSet.ofFile file).enabled.filter (·.enabled) = (TaskSet.ofFile file).enabled :=
      List.filter_eq_self.mpr fun task htask => (List.mem_filter.mp htask).2
    have hends : Surely none (fun result => ∃ r, result = some r ∧
        r.Accounts ((TaskSet.ofFile file).enabled.filter (·.enabled)))
        ((Choice.all (TaskSet.ofFile file).enabled).run (Options.unset.aim file)) 0 := by
      refine surely_of_countable (fun task htask => ?_) fun _ _ _ hgoes => accounts_of_goes hgoes
      rw [htasks] at htask
      exact areCountable_of_goesBack (List.all_eq_true.mp hback task htask)
    obtain ⟨log, _, after, hgoes, r, rfl, haccounts⟩ := hends.exists_goes
    refine ⟨hpasses, _, _, log, r, after, rfl, hgoes, ?_, hdispatched none 0 log r after hgoes⟩
    rw [haccounts.length, htasks, hone]

end CommandLine

end CheckIn

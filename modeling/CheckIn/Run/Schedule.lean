import CheckIn.Run.Ledger
import CheckIn.Run.Teardown

/-! Runs: tasks carried out strictly one after another. There is one run at a time, and one that is
asked for meanwhile is refused. -/

namespace CheckIn.Run

structure Scheduler where
  steps : StepRunner
  teardown : Teardown
  taskDelay : Nat
  launchTimeout : Nat

namespace Scheduler

def ofFile (file : TaskFile) : Scheduler :=
  let steps := StepRunner.ofSettings file.settings
  ⟨steps, ⟨steps.lookup, file.lifecycle⟩, file.settings.taskDelay, file.settings.launchTimeout⟩

/-- Launches the task's app if that is wanted, and carries out its steps. -/
def execute (s : Scheduler) (task : Task) (index : Nat) :
    ExceptT StepFailure (Process interface) Nat := do
  if s.teardown.settings.enabled && s.teardown.wantsLaunch task then
    match ← (s.steps.launchApp task.package s.launchTimeout).run with
    | .ok _ => pure ()
    | .error e =>
      if !e.isStop then Part.say .error s!"[{task.name}] clean launch failed: {e.message}"
      throw ⟨0, s!"clean launch of {task.package}", e, 0⟩
  s.steps.runSteps task index

/-- The failure of a task without steps. -/
def noSteps : StepFailure := ⟨0, "task has no steps", .malformed "task has no steps", 0⟩

/-- Notes in the ledger that a task without steps failed. -/
def refuse (task : Task) (index : Nat) (ledger : Ledger) : Part Ledger := do
  let now ← Part.wallClock
  let (_, ledger) := (ledger.start index now).fail index noSteps now
  Part.progress index 0 s!"{task.name} failed" .failed
  Part.say .error s!"[{task.name}] has no steps; not started"
  pure ledger

/-- Notes in the ledger what became of a task that began at `started`. -/
def settle (task : Task) (index started : Nat) (ledger : Ledger) :
    Except StepFailure Nat → Part Ledger
  | .ok steps => do
    let ledger := ledger.succeed index steps (← Part.wallClock)
    Part.progress index 100 s!"{task.name} done" .succeeded
    let now ← Part.now
    Part.say .info s!"[{task.name}] succeeded in {now - started}ms"
    pure ledger
  | .error failure => do
    let (status, ledger) := ledger.fail index failure (← Part.wallClock)
    match status with
    | .stopped =>
      Part.progress index 50 s!"{task.name} stopped" .stopped
      Part.say .warn s!"[{task.name}] stopped before step {failure.stepIndex + 1}"
    | _ => Part.progress index 0 s!"{task.name} failed" .failed
    pure ledger

/-- Carries out one task of `total`, from its start to the end of its teardown. -/
def runTask (s : Scheduler) (task : Task) (index total : Nat) (ledger : Ledger) : Part Ledger := do
  let started ← Part.now
  let ledger := ledger.start index (← Part.wallClock)
  Part.progress index 30 s!"{task.name} started" .running
  Part.say .info s!"[{task.name}] starting task {index + 1}/{total} ({task.package})"
  let ledger ← settle task index started ledger (← (s.execute task index).run)
  let warnings ← s.teardown.run task
  pure (ledger.warn index warnings)

/-- Notes in the ledger that the tasks from `index` on will not begin. -/
def stopRemaining (index total : Nat) (ledger : Ledger) : Part Ledger := do
  let (changed, ledger) := ledger.stopRemaining index
  changed.forM fun i => Part.progress i 50 "stopped" .stopped
  Part.say .warn s!"run stopped; {total - index} task(s) not started"
  pure ledger

/-- Carries out tasks, the first of which is at `index` of `total`, until the run is stopped. -/
def runTasks (s : Scheduler) (total : Nat) : (index : Nat) → List Task → Ledger → Part Ledger
  | _, [], ledger => pure ledger
  | index, task :: tasks, ledger => do
    if ← Part.isStopped then stopRemaining index total ledger
    else if task.steps.isEmpty then
      runTasks s total (index + 1) tasks (← refuse task index ledger)
    else
      let ledger ← s.runTask task index total ledger
      if index + 1 < total then let _ ← Part.pause s.taskDelay true
      runTasks s total (index + 1) tasks ledger

/-- The run of at least one task, once it has been accepted. -/
def runAccepted (s : Scheduler) (tasks : List Task) : Part RunResult := do
  let started ← Part.now
  let total := tasks.length
  Part.log .info "autosign::engine::scheduler" "run started" [("tasks", .shown (toString total))]
  tasks.zipIdx.forM fun (task, i) => Part.progress i 0 s!"{task.name} pending" .pending
  let ledger := (Ledger.ofTasks (tasks.map fun task => (task.id, task.name))).beginRun
  let ledger ← s.runTasks total 0 tasks ledger
  let finished ← Part.now
  let result := ledger.finish (finished - started)
  let counts := s!"{result.succeeded}/{result.total} succeeded, {result.failed} failed"
  Part.say .info s!"run finished: {counts}, {result.stopped} stopped in {result.elapsed}ms"
  pure result

/-- Runs tasks; nothing if another run is active. -/
def run (s : Scheduler) (tasks : List Task) : Part (Option RunResult) := do
  if ← Part.claim then
    let result ← match tasks with
      | [] => do
        Part.log .info "autosign::engine::scheduler" "no enabled tasks; nothing to run" []
        pure RunResult.empty
      | tasks => s.runAccepted tasks
    Part.forget
    Part.release
    pure (some result)
  else pure none

/-- Runs every enabled task. -/
def runAll (s : Scheduler) (tasks : List Task) : Part (Option RunResult) :=
  s.run (tasks.filter (·.enabled))

/-- Runs one task, enabled or not. -/
def runSingle (s : Scheduler) (task : Task) : Part (Option RunResult) := s.run [task]

end Scheduler

end CheckIn.Run

import CheckIn.Calendar.Moment
import CheckIn.Run.Error

/-! The ledger of a run: what became of every task, at its place in the run. -/

namespace CheckIn.Run

inductive Status where
  | pending
  | executing
  | succeeded
  | failed
  | stopped
  deriving DecidableEq

namespace Status

def isTerminal : Status → Bool
  | succeeded | failed | stopped => true
  | pending | executing => false

def name : Status → String
  | pending => "Pending"
  | executing => "Executing"
  | succeeded => "Succeeded"
  | failed => "Failed"
  | stopped => "Stopped"

end Status

/-- How far a run has come. -/
inductive Phase where
  | idle
  | running
  | completed
  | stopped
  deriving DecidableEq

def Phase.name : Phase → String
  | idle => "Idle"
  | running => "Running"
  | completed => "Completed"
  | stopped => "Stopped"

/-- How a run ended. -/
inductive Outcome where
  | completed
  | stopped
  deriving DecidableEq

def Outcome.name : Outcome → String
  | completed => "Completed"
  | stopped => "Stopped"

/-- What became of a task. -/
structure Report where
  id : UInt32
  name : String
  status : Status
  error : Option String
  /-- The description of the step that failed. -/
  failedStep : Option String
  warnings : List String
  stepsExecuted : Nat
  startedAt : Option Calendar.Moment
  finishedAt : Option Calendar.Moment

/-- The report of a task that has not begun. -/
def Report.pending (id : UInt32) (name : String) : Report :=
  ⟨id, name, .pending, none, none, [], 0, none, none⟩

structure RunResult where
  outcome : Outcome
  total : Nat
  succeeded : Nat
  failed : Nat
  stopped : Nat
  elapsed : Nat
  reports : List Report

namespace RunResult

/-- The result of a run of no tasks. -/
def empty : RunResult := ⟨.completed, 0, 0, 0, 0, 0, []⟩

def report? (r : RunResult) (id : UInt32) : Option Report := r.reports.find? (·.id == id)

def allSucceeded (r : RunResult) : Bool := r.succeeded == r.total

/-- The exit code of the program after a run. -/
def exitCode (r : RunResult) : Nat :=
  match r.outcome with
  | .stopped => 130
  | .completed => if r.failed > 0 then 2 else 0

end RunResult

structure Ledger where
  phase : Phase
  reports : List Report

namespace Ledger

/-- The ledger of a run of tasks that is yet to begin. -/
def ofTasks (tasks : List (UInt32 × String)) : Ledger :=
  ⟨.idle, tasks.map fun (id, name) => .pending id name⟩

def status? (l : Ledger) (index : Nat) : Option Status := l.reports[index]?.map (·.status)

def beginRun (l : Ledger) : Ledger := { l with phase := .running }

/-- Changes the report at a place, if there is one. -/
def change (l : Ledger) (index : Nat) (f : Report → Report) : Ledger :=
  { l with reports := l.reports.modify index f }

def start (l : Ledger) (index : Nat) (now : Calendar.Moment) : Ledger :=
  l.change index fun r => { r with status := .executing, startedAt := some now }

def succeed (l : Ledger) (index steps : Nat) (now : Calendar.Moment) : Ledger :=
  l.change index fun r =>
    { r with status := .succeeded, stepsExecuted := steps, finishedAt := some now }

/-- The status of a task that ended with an error: a stop is no failure. -/
def statusOf (error : StepError) : Status := if error.isStop then .stopped else .failed

/-- Notes that a task ended early, and says what became of it. -/
def fail (l : Ledger) (index : Nat) (failure : StepFailure) (now : Calendar.Moment) :
    Status × Ledger :=
  let status := if index < l.reports.length then statusOf failure.error else .failed
  (status, l.change index fun r =>
    { r with status := statusOf failure.error, stepsExecuted := failure.stepsExecuted
             finishedAt := some now, error := some failure.error.message
             failedStep := if failure.error.isStop then r.failedStep
               else some failure.description })

def warn (l : Ledger) (index : Nat) (warnings : List StepError) : Ledger :=
  l.change index fun r => { r with warnings := r.warnings ++ warnings.map StepError.message }

/-- The places from `start` on whose tasks have not begun. -/
def pendingFrom (start : Nat) (l : Ledger) : List Nat :=
  l.reports.zipIdx.filterMap fun (r, i) =>
    if start ≤ i ∧ r.status = .pending then some i else none

/-- Stops the run: no task from `start` on that has not begun will begin. Gives their places. -/
def stopRemaining (start : Nat) (l : Ledger) : List Nat × Ledger :=
  (l.pendingFrom start,
    { phase := .stopped
      reports := l.reports.mapIdx fun i r =>
        if start ≤ i ∧ r.status = .pending then { r with status := .stopped } else r })

def count (l : Ledger) (status : Status) : Nat := l.reports.countP (·.status == status)

/-- The result of the run, which took `elapsed` milliseconds. -/
def finish (l : Ledger) (elapsed : Nat) : RunResult where
  outcome := if l.phase = .stopped ∨ l.count .stopped > 0 then .stopped else .completed
  total := l.reports.length
  succeeded := l.count .succeeded
  failed := l.count .failed
  stopped := l.count .stopped
  elapsed := elapsed
  reports := l.reports

end Ledger

end CheckIn.Run

import CheckIn.Run.Ledger
import CheckIn.Task.Basic
import CheckIn.Text.Record

/-! What is printed about tasks before a run, and about a run after it. -/

namespace CheckIn.CommandLine

/-- A text with spaces after it up to a width. -/
def padRight (width : Nat) (s : String) : String :=
  s ++ String.ofList (List.replicate (width - s.length) ' ')

/-- A text with spaces before it up to a width. -/
def padLeft (width : Nat) (s : String) : String :=
  String.ofList (List.replicate (width - s.length) ' ') ++ s

/-- Lines, each with its end. -/
def unlines (lines : List String) : String := String.join (lines.map (· ++ "\n"))

/-- A line for each task; those that are disabled are marked. -/
def listing (set : TaskSet) : String :=
  let line := fun (task : Task) =>
    let mark := if task.enabled then " " else "-"
    let id := padLeft 3 (toString task.id.toNat)
    s!"  {mark} {id}  {padRight 20 task.name} {task.package}  ({task.steps.length} steps)"
  unlines (s!"tasks ({set.tasks.length}):" :: set.tasks.map line)

/-- The line of the step at a place of its task. -/
def stepLine (step : Step) (index : Nat) : String :=
  let number := padLeft 2 (toString (index + 1))
  match step.action with
  | .ok _ => s!"      {number}. {padRight 12 step.verb} {step.description}"
  | .error fault => s!"      {number}. !! {fault.message}"

/-- The lines of a task with its steps. -/
def taskLines (task : Task) : List String :=
  let state := if task.enabled then "" else " (disabled)"
  [s!"  - [{task.id.toNat}] {task.name}{state}", s!"      package: {task.package}"] ++
    (task.description.map fun text => s!"      description: {text}").toList ++
    (if task.steps.isEmpty then ["      !! no steps"] else []) ++
    task.steps.mapIdx fun index step => stepLine step index

/-- The settings that matter most, and all tasks with their steps. -/
def dryRun (file : TaskFile) (set : TaskSet) : String :=
  let s := file.settings
  unlines (
    ["autosign dry-run", s!"  settings.step_delay_ms = {s.stepDelay}",
      s!"  settings.task_delay_ms = {s.taskDelay}",
      s!"  settings.poll_interval_ms = {s.pollInterval}",
      s!"  settings.recognition_fallback = {Text.flag s.recognitionFallback}",
      s!"  lifecycle.enabled = {Text.flag file.lifecycle.enabled}",
      s!"  lifecycle.host_package = {file.lifecycle.hostPackage}", "",
      s!"tasks ({set.tasks.length}):"] ++ set.tasks.flatMap taskLines)

/-- Whether every step of every task can be carried out. -/
def isSound (set : TaskSet) : Bool := set.tasks.all (·.faultySteps.isEmpty)

/-- What a task of a run came to, in a word. -/
def mark : Run.Status → String
  | .succeeded => "ok"
  | .failed => "FAILED"
  | .stopped => "stopped"
  | .pending | .executing => "?"

/-- The lines of a report: what the task came to, where it failed, and what went wrong after it. -/
def reportLines (r : Run.Report) : List String :=
  let failure := r.error.map fun error => match r.failedStep with
    | some step => s!"            at '{step}': {error}"
    | none => s!"            {error}"
  s!"  [{padLeft 7 (mark r.status)}] {r.id.toNat} {r.name}" :: failure.toList ++
    r.warnings.map fun warning => s!"            warning: {warning}"

/-- The summary of a run that took a number of seconds. -/
def summary (seconds : String) (r : Run.RunResult) : String :=
  unlines (s!"{r.succeeded} of {r.total} task(s) succeeded in {seconds}s" ::
    r.reports.flatMap reportLines ++
    if r.outcome = .stopped then ["run stopped by user"] else [])

/-- A number of milliseconds in seconds, rounded to tenths. -/
def tenths (milliseconds : Nat) : String :=
  let rounded := (milliseconds + 50) / 100
  s!"{rounded / 10}.{rounded % 10}"

end CheckIn.CommandLine

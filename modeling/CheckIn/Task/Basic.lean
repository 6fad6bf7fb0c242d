import CheckIn.Task.Action

/-! Tasks with compiled steps, and the tasks of a file together. -/

namespace CheckIn

variable [Pattern.Library]

/-- A compiled step. One whose fields do not satisfy its verb keeps the reason and fails when it is
carried out. -/
structure Step where
  description : String
  /-- The action as written. -/
  verb : String
  action : Except StepFault Action

namespace Step

def ofRaw (raw : RawStep) (defaults : StepDefaults) : Step :=
  ⟨raw.description.getD raw.action, raw.action, raw.compile defaults⟩

def isLaunch (step : Step) : Bool :=
  match step.action with
  | .ok (.launch _) => true
  | _ => false

end Step

structure Task where
  id : UInt32
  name : String
  package : String
  /-- What the app's card among the recent apps says. -/
  label : String
  enabled : Bool
  description : Option String
  steps : List Step
  stepDelay : Option Nat
  defaultTimeout : Option Nat

namespace Task

def ofEntry (entry : TaskEntry) (settings : Settings) : Task :=
  let defaults : StepDefaults :=
    ⟨entry.defaultTimeout.getD settings.defaultTimeout, settings.launchTimeout, settings.retries,
      settings.screenshotTemplate⟩
  { id := entry.id, name := entry.name, package := entry.package
    label := entry.label.getD entry.name
    enabled := entry.enabled, description := entry.description
    steps := entry.steps.map (Step.ofRaw · defaults)
    stepDelay := entry.stepDelay, defaultTimeout := entry.defaultTimeout }

def startsWithLaunch (task : Task) : Bool := task.steps.head?.any Step.isLaunch

/-- The steps that do not satisfy their verbs, with their places. -/
def faultySteps (task : Task) : List (Nat × Step × StepFault) :=
  task.steps.zipIdx.filterMap fun (step, i) =>
    match step.action with
    | .ok _ => none
    | .error fault => some (i, step, fault)

def usesVerb (task : Task) (verb : Verb) : Bool :=
  task.steps.any fun step => match step.action with
    | .ok action => action.verb == verb
    | .error _ => false

end Task

/-- Why tasks cannot be selected. -/
inductive SelectionError where
  | notFound (id : UInt32)
  | noSteps (id : UInt32) (name : String)

def SelectionError.message : SelectionError → String
  | notFound id => s!"Task not found: {id.toNat}"
  | noSteps id name => s!"Configuration error: task {id.toNat} ('{name}') has no steps"

/-- The tasks of a file, in its order. -/
structure TaskSet where
  tasks : List Task

namespace TaskSet

def ofFile (file : TaskFile) : TaskSet := ⟨file.tasks.map (Task.ofEntry · file.settings)⟩

def get? (set : TaskSet) (id : UInt32) : Option Task := set.tasks.find? (·.id == id)

def enabled (set : TaskSet) : List Task := set.tasks.filter (·.enabled)

/-- Disables the first task of an id in a list. -/
def disableIn (id : UInt32) : List Task → List Task
  | [] => []
  | task :: tasks =>
    if task.id == id then { task with enabled := false } :: tasks else task :: disableIn id tasks

/-- Disables a task, and says whether there is one of that id. -/
def disable (set : TaskSet) (id : UInt32) : Bool × TaskSet :=
  ((set.get? id).isSome, ⟨disableIn id set.tasks⟩)

/-- A task that is run needs a step. -/
def checkRunnable (task : Task) : Except SelectionError Unit :=
  if task.steps.isEmpty then .error (.noSteps task.id task.name) else .ok ()

/-- A single task to run, enabled or not. -/
def select (set : TaskSet) (id : UInt32) : Except SelectionError Task := do
  match set.get? id with
  | none => throw (.notFound id)
  | some task =>
    checkRunnable task
    pure task

/-- The enabled tasks, to be run together. -/
def selectEnabled (set : TaskSet) : Except SelectionError (List Task) := do
  set.enabled.forM checkRunnable
  pure set.enabled

end TaskSet

end CheckIn

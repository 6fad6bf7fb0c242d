import CheckIn.CommandLine.Listing
import CheckIn.CommandLine.Options
import CheckIn.Json.Printer
import CheckIn.Phone.Bridge
import CheckIn.Run.ResultFormat
import CheckIn.Run.Schedule
import CheckIn.Toml.Reader

/-! What the program does with its options and a task file. All of it is settled before the phone is
reached: the tasks are printed, or a run is begun whose result is printed afterwards. -/

namespace CheckIn.CommandLine

/-- The tasks of a run. -/
inductive Choice where
  | single (task : Task)
  | all (tasks : List Task)

inductive Plan where
  | print (text : String) (exitCode : Nat)
  | run (file : TaskFile) (choice : Choice)

/-- Why a task file cannot be used. -/
inductive FileFault where
  | unreadable (problem : String)
  | illFormed
  | invalid (fault : TaskFileFault)

namespace FileFault

def failure : FileFault → Failure
  | unreadable problem => ⟨s!"IO error: {problem}", [problem]⟩
  | illFormed => .of "TOML parsing error"
  | invalid fault => .of s!"Configuration error: {fault.message}"

end FileFault

/-- The path of the task file when no other is given. -/
def standardPath : String := "Autosign.toml"

/-- The path of the task file: that of the options before that of the surroundings. -/
def pathOf (o : Options) (surroundings : Option String) : String :=
  (o.config.or surroundings).getD standardPath

/-- Reads and checks a task file. -/
def load (contents : Except String (List UInt8)) : Except FileFault TaskFile :=
  match contents with
  | .error problem => .error (.unreadable problem)
  | .ok bytes => match Text.Utf8.decode? bytes with
    | none => .error (.unreadable "stream did not contain valid UTF-8")
    | some text => match TaskFile.ofToml? text with
      | none => .error .illFormed
      | some file => match file.fault? with
        | some fault => .error (.invalid fault)
        | none => .ok file

/-- Disables the tasks to be skipped, and tells of each whether there is one of that id. -/
def skipAll (set : TaskSet) : List UInt32 → List Log.Event × TaskSet
  | [] => ([], set)
  | id :: ids =>
    let (isKnown, set) := set.disable id
    let fields := [("task", Log.Value.shown (toString id.toNat))]
    let event : Log.Event :=
      if isKnown then ⟨.info, "autosign", fields, "task disabled for this run"⟩
      else ⟨.warn, "autosign", fields, "--skip names an unknown task id"⟩
    let (events, set) := skipAll set ids
    (event :: events, set)

/-- Chooses what to do with the tasks of a file. -/
def choosePlan (o : Options) (file : TaskFile) (set : TaskSet) : Except Failure Plan :=
  let selected {α : Type} (choice : α → Choice) (e : Except SelectionError α) :
      Except Failure Plan :=
    match e with
    | .ok tasks => .ok (.run file (choice tasks))
    | .error e => .error (.of e.message)
  if o.list then .ok (.print (listing set) 0)
  else if o.dryRun then .ok (.print (dryRun file set) (if isSound set then 0 else 1))
  else match o.task with
    | some id => selected .single (set.select id)
    | none => selected .all set.selectEnabled

/-- What to do, from the contents of the file at a path, and what is told about it. -/
def plan (o : Options) (path : String) (contents : Except String (List UInt8)) :
    List Log.Event × Except Failure Plan :=
  match load contents with
  | .error fault => ([], .error (fault.failure.because s!"loading task file {path}"))
  | .ok file =>
    let serial := o.serial.or file.connection.serial
    let file := { file with connection.serial := serial }
    let (events, set) := skipAll (.ofFile file) o.skip
    (events, choosePlan o file set)

/-- The run of chosen tasks. -/
def Choice.run (file : TaskFile) : Choice → Run.Part (Option Run.RunResult)
  | single task => (Run.Scheduler.ofFile file).runSingle task
  | all tasks => (Run.Scheduler.ofFile file).runAll tasks

/-- The bridge to the phone of a file. What is on the screen is good for half the time between two
looks. -/
def bridgeOf (file : TaskFile) : Phone.Bridge :=
  ⟨file.connection, file.settings.pollInterval * 500⟩

/-- What is printed about a run: its result in JSON, or the summary. -/
def printed (o : Options) (seconds : String) (r : Run.RunResult) : String :=
  if o.json then Json.layOut "" r.json ++ "\n" else summary seconds r

/-- The failure of a run that is asked for while another is active. -/
def runActive : Failure := .of "a run is already active; refusing to start another"

/-- What is printed when the program fails. -/
def failureText (f : Failure) : String := s!"autosign error: {f.column}\n"

end CheckIn.CommandLine

import CheckIn.Text.Blank
import CheckIn.Decimal.Shortest

/-! Task files: settings, how apps are opened and closed, how the phone is reached, and the tasks
with their steps as written. Durations are milliseconds below `2 ^ 64`. -/

namespace CheckIn

/-- Timing and recognition policy. -/
structure Settings where
  /-- The pause after a step that succeeded. -/
  stepDelay : Nat
  /-- The pause between two tasks. -/
  taskDelay : Nat
  /-- How often a lookup looks at the screen. -/
  pollInterval : Nat
  /-- The timeout of steps that set none. -/
  defaultTimeout : Nat
  /-- The wait after an app has been launched, for steps that set none. -/
  launchTimeout : Nat
  /-- The pause between stopping an app and launching it. -/
  launchSettle : Nat
  /-- The pause after back and home. -/
  navSettle : Nat
  /-- What is added to the duration of a swipe. -/
  swipeSettle : Nat
  threshold : Float32
  retries : UInt32
  backoff : Nat
  /-- Whether recognition takes over where a lookup finds nothing. -/
  recognitionFallback : Bool
  /-- The path of screenshots whose steps set none. -/
  screenshotTemplate : String

namespace Settings

/-- What a section that is left out says. -/
def standard : Settings where
  stepDelay := 1000
  taskDelay := 2000
  pollInterval := 200
  defaultTimeout := 5000
  launchTimeout := 3000
  launchSettle := 1000
  navSettle := 1000
  swipeSettle := 500
  threshold := 0.6
  retries := 3
  backoff := 500
  recognitionFallback := false
  screenshotTemplate := "/sdcard/Pictures/autosign_\x7btask\x7d_\x7btimestamp\x7d.png"

end Settings

/-- Launching apps, closing them and going back to the host app. -/
structure Lifecycle where
  /-- Whether the app is closed and the host app brought back after each task. -/
  enabled : Bool
  /-- Whether the app is launched before a task that does not begin by doing so. -/
  autoLaunch : Bool
  hostPackage : String
  /-- What the host app's card among the recent apps says. -/
  hostLabel : String
  recentsSettle : Nat
  cardTimeout : Nat
  returnRetries : UInt32
  returnInterval : Nat

namespace Lifecycle

/-- What a section that is left out says. -/
def standard : Lifecycle where
  enabled := true
  autoLaunch := true
  hostPackage := "org.autojs.autojs6"
  hostLabel := "AutoJs6"
  recentsSettle := 1000
  cardTimeout := 3000
  returnRetries := 5
  returnInterval := 1500

end Lifecycle

/-- How the phone is reached. -/
structure Connection where
  adb : String
  /-- Which phone, if there are several. -/
  serial : Option String
  /-- A command that prints the texts on the screen. -/
  ocrCommand : Option String

def Connection.standard : Connection := ⟨"adb", none, none⟩

/-- A step as written. Which fields it needs depends on the action. -/
structure RawStep where
  action : String
  description : Option String
  selector : Option String
  timeout : Option Nat
  duration : Option Nat
  start : Option (Int32 × Int32)
  finish : Option (Int32 × Int32)
  count : Option UInt32
  text : Option String
  retries : Option UInt32
  path : Option String
  dwell : Option Nat

/-- A step with an action and nothing else. -/
def RawStep.ofAction (action : String) : RawStep :=
  ⟨action, none, none, none, none, none, none, none, none, none, none, none⟩

/-- A task as written. -/
structure TaskEntry where
  id : UInt32
  name : String
  package : String
  /-- What the app's card among the recent apps says; the name if left out. -/
  label : Option String
  enabled : Bool
  description : Option String
  stepDelay : Option Nat
  defaultTimeout : Option Nat
  steps : List RawStep

structure TaskFile where
  settings : Settings
  lifecycle : Lifecycle
  connection : Connection
  tasks : List TaskEntry

/-- Why a task file is refused. -/
inductive TaskFileFault where
  | pollInterval
  | threshold (value : Float32)
  | returnRetries
  | hostPackage
  | duplicateId (id : UInt32) (name : String)
  | emptyName (id : UInt32)
  | emptyPackage (id : UInt32) (name : String)

def TaskFileFault.message : TaskFileFault → String
  | pollInterval => "[settings].poll_interval_ms must be >= 1 (got 0)"
  | threshold value =>
    let shown := Decimal.shortest value
    s!"[settings].recognition_threshold must be within 0.0..=1.0 (got {shown})"
  | returnRetries => "[lifecycle].return_retries must be >= 1 when lifecycle is enabled"
  | hostPackage => "[lifecycle].host_package must not be empty when lifecycle is enabled"
  | duplicateId id name => s!"duplicate task id {id} ('{name}')"
  | emptyName id => s!"task {id} has an empty name"
  | emptyPackage id name => s!"task {id} ('{name}') has an empty package"

namespace TaskFile

def isBlankText (s : String) : Bool := s.toList.all Text.isBlank

/-- The first fault of the tasks, where the ids `seen` are in use. -/
def taskFault? (seen : List UInt32) : List TaskEntry → Option TaskFileFault
  | [] => none
  | task :: tasks =>
    if seen.contains task.id then some (.duplicateId task.id task.name)
    else if isBlankText task.name then some (.emptyName task.id)
    else if isBlankText task.package then some (.emptyPackage task.id task.name)
    else taskFault? (task.id :: seen) tasks

/-- The first fault of a task file. Steps are not looked at. -/
def fault? (file : TaskFile) : Option TaskFileFault :=
  if file.settings.pollInterval = 0 then some .pollInterval
  else if !(0 ≤ file.settings.threshold && file.settings.threshold ≤ 1) then
    some (.threshold file.settings.threshold)
  else if file.lifecycle.enabled && file.lifecycle.returnRetries == 0 then some .returnRetries
  else if file.lifecycle.enabled && isBlankText file.lifecycle.hostPackage then some .hostPackage
  else taskFault? [] file.tasks

end TaskFile

end CheckIn

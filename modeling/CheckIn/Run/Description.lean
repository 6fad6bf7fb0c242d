import CheckIn.Run.Schedule
import CheckIn.Text.Record

/-! Texts that describe the parts of a run by their settings. -/

namespace CheckIn.Run

open Text (record span)

def Lookup.describe (l : Lookup) : String :=
  record "SelectorResolver" [("poll_interval", span l.interval)] false

def Recognition.describe (r : Recognition) : String :=
  record "RecognitionFallback"
    [("threshold", (Decimal.Shape.of32 r.threshold).pointed),
     ("retries", toString r.retries.toNat), ("backoff", span r.backoff)] false

/-- Of the phone, nothing is told. -/
def phoneDescription : String := record "Device" [] false

def StepRunner.describe (r : StepRunner) : String :=
  let settings := record "InterpreterSettings"
    [("step_delay", span r.stepDelay), ("launch_settle", span r.launchSettle),
     ("nav_settle", span r.navSettle), ("swipe_settle", span r.swipeSettle),
     ("recognition_fallback", Text.flag r.recognitionFallback)] true
  record "StepInterpreter"
    [("device", phoneDescription), ("resolver", r.lookup.describe),
     ("recognition", r.recognition.describe), ("settings", settings)] true

def Teardown.describe (t : Teardown) : String :=
  let l := t.settings
  let settings := record "LifecycleSection"
    [("enabled", Text.flag l.enabled), ("auto_launch", Text.flag l.autoLaunch),
     ("host_package", Text.quoted l.hostPackage), ("host_label", Text.quoted l.hostLabel),
     ("recents_settle_ms", toString l.recentsSettle), ("card_timeout_ms", toString l.cardTimeout),
     ("return_retries", toString l.returnRetries.toNat),
     ("return_interval_ms", toString l.returnInterval)] true
  record "LifecycleManager"
    [("device", phoneDescription), ("resolver", t.lookup.describe), ("settings", settings)] true

/-- Of a stop, nothing is told. -/
def stopDescription : String := "StopHandle \x7b\x7d"

def Scheduler.describe (s : Scheduler) (isActive : Bool) : String :=
  record "TaskScheduler"
    [("stop", stopDescription), ("active", Text.flag isActive), ("task_delay", span s.taskDelay)]
    false

/-- The place in a run: the index of the task that has begun, if one has. -/
def describePlace (index : Option Nat) : String :=
  let current := match index with
    | none => "None"
    | some index =>
      let task := record "CurrentTask"
        [("index", toString index), ("started", "Instant \x7b\x7d")] true
      s!"Some({task})"
  record "ExecutionContext" [("stop", stopDescription), ("current", current)] false

end CheckIn.Run

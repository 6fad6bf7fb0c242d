import CheckIn.TaskFile.Basic
import CheckIn.Data

/-! Task files from data: the name and the place of every field, and what it is if left out. -/

namespace CheckIn

open Data

def Settings.ofData? (exact : Bool) (d : Data) : Option Settings := do
  let f ← d.fields? exact 13
  let s := Settings.standard
  pure {
    stepDelay := ← f.defaulted 0 "step_delay_ms" nat64? s.stepDelay
    taskDelay := ← f.defaulted 1 "task_delay_ms" nat64? s.taskDelay
    pollInterval := ← f.defaulted 2 "poll_interval_ms" nat64? s.pollInterval
    defaultTimeout := ← f.defaulted 3 "default_timeout_ms" nat64? s.defaultTimeout
    launchTimeout := ← f.defaulted 4 "launch_timeout_ms" nat64? s.launchTimeout
    launchSettle := ← f.defaulted 5 "launch_settle_ms" nat64? s.launchSettle
    navSettle := ← f.defaulted 6 "nav_settle_ms" nat64? s.navSettle
    swipeSettle := ← f.defaulted 7 "swipe_settle_ms" nat64? s.swipeSettle
    threshold := ← f.defaulted 8 "recognition_threshold" float32? s.threshold
    retries := ← f.defaulted 9 "recognition_retries" uint32? s.retries
    backoff := ← f.defaulted 10 "recognition_backoff_ms" nat64? s.backoff
    recognitionFallback := ← f.defaulted 11 "recognition_fallback" bool? s.recognitionFallback
    screenshotTemplate := ← f.defaulted 12 "screenshot_template" string? s.screenshotTemplate }

def Lifecycle.ofData? (exact : Bool) (d : Data) : Option Lifecycle := do
  let f ← d.fields? exact 8
  let s := Lifecycle.standard
  pure {
    enabled := ← f.defaulted 0 "enabled" bool? s.enabled
    autoLaunch := ← f.defaulted 1 "auto_launch" bool? s.autoLaunch
    hostPackage := ← f.defaulted 2 "host_package" string? s.hostPackage
    hostLabel := ← f.defaulted 3 "host_label" string? s.hostLabel
    recentsSettle := ← f.defaulted 4 "recents_settle_ms" nat64? s.recentsSettle
    cardTimeout := ← f.defaulted 5 "card_timeout_ms" nat64? s.cardTimeout
    returnRetries := ← f.defaulted 6 "return_retries" uint32? s.returnRetries
    returnInterval := ← f.defaulted 7 "return_interval_ms" nat64? s.returnInterval }

def Connection.ofData? (exact : Bool) (d : Data) : Option Connection := do
  let f ← d.fields? exact 3
  pure {
    adb := ← f.defaulted 0 "adb" string? Connection.standard.adb
    serial := ← f.maybe 1 "serial" string?
    ocrCommand := ← f.maybe 2 "ocr_command" string? }

def RawStep.ofData? (exact : Bool) (d : Data) : Option RawStep := do
  let f ← d.fields? exact 12
  pure {
    action := ← f.required 0 "action" string?
    description := ← f.maybe 1 "description" string?
    selector := ← f.maybe 2 "selector" string?
    timeout := ← f.maybe 3 "timeout" nat64?
    duration := ← f.maybe 4 "duration" nat64?
    start := ← f.maybe 5 "start" (pair? exact)
    finish := ← f.maybe 6 "end" (pair? exact)
    count := ← f.maybe 7 "count" uint32?
    text := ← f.maybe 8 "text" string?
    retries := ← f.maybe 9 "retries" uint32?
    path := ← f.maybe 10 "path" string?
    dwell := ← f.maybe 11 "dwell" nat64? }

def TaskEntry.ofData? (exact : Bool) (d : Data) : Option TaskEntry := do
  let f ← d.fields? exact 9
  pure {
    id := ← f.required 0 "id" uint32?
    name := ← f.required 1 "name" string?
    package := ← f.required 2 "package" string?
    label := ← f.maybe 3 "label" string?
    enabled := ← f.defaulted 4 "enabled" bool? true
    description := ← f.maybe 5 "description" string?
    stepDelay := ← f.maybe 6 "step_delay_ms" nat64?
    defaultTimeout := ← f.maybe 7 "default_timeout_ms" nat64?
    steps := ← f.defaulted 8 "steps" (list? (RawStep.ofData? exact)) [] }

/-- The task file of the data. In exact formats no array is longer than what it stands for. -/
def TaskFile.ofData? (exact : Bool) (d : Data) : Option TaskFile := do
  let f ← d.fields? exact 4
  pure {
    settings := ← f.defaulted 0 "settings" (Settings.ofData? exact) .standard
    lifecycle := ← f.defaulted 1 "lifecycle" (Lifecycle.ofData? exact) .standard
    connection := ← f.defaulted 2 "device" (Connection.ofData? exact) .standard
    tasks := ← f.defaulted 3 "task" (list? (TaskEntry.ofData? exact)) [] }

/-- The task file of a JSON value. -/
def TaskFile.ofJson? (j : Json) : Option TaskFile := do
  TaskFile.ofData? true (← Data.ofJson j)

end CheckIn

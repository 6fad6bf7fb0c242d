import CheckIn.Run.Lookup
import CheckIn.Run.Recognition
import CheckIn.Selector.Printer
import CheckIn.Task.Basic
import CheckIn.Task.ScreenshotPath

/-! Carrying out the steps of a task, one after the other, up to the first that fails. -/

namespace CheckIn.Run

/-- How steps are carried out. -/
structure StepRunner where
  lookup : Lookup
  recognition : Recognition
  stepDelay : Nat
  launchSettle : Nat
  navSettle : Nat
  swipeSettle : Nat
  recognitionFallback : Bool

namespace StepRunner

def ofSettings (s : Settings) : StepRunner where
  lookup := .ofInterval s.pollInterval
  recognition := ⟨s.threshold, s.retries, s.backoff⟩
  stepDelay := s.stepDelay
  launchSettle := s.launchSettle
  navSettle := s.navSettle
  swipeSettle := s.swipeSettle
  recognitionFallback := s.recognitionFallback

/-- The most rounds of a click loop. -/
def roundLimit : Nat := 50

/-- The pause after going back from a page that a click loop opened. -/
def returnSettle : Nat := 500

/-- The pause after a click of a click loop that failed. -/
def retryDelay : Nat := 1000

def notFound (selector : Selector) (timeout : Nat) : StepError :=
  .elementNotFound selector.print timeout

/-- Stops the app if that is possible, launches it and waits. -/
def launchApp (r : StepRunner) (package : String) (timeout : Nat) : Attempt Unit := do
  match ← Part.call (.forceStop package) with
  | .ok _ => pure ()
  | .error failure =>
    Part.log .warn "autosign::exec::interpreter" "force-stop failed; launching anyway"
      [("package", .text package), ("error", .shown failure.cause)]
    Part.say .warn s!"force-stop of {package} failed: {failure.cause}"
  Attempt.pause r.launchSettle true
  Part.log .info "autosign::exec::interpreter" "launching app" [("package", .text package)]
  Attempt.call (.launch package)
  Attempt.pause timeout true

/-- The element's own click if it has one, else a tap at its center. -/
def clickElement (e : Screen.Element) : Attempt Unit :=
  if e.clickable then Attempt.call (.click e)
  else do
    Part.checked e.bounds.SumsFit
    Attempt.call (.tap e.center)

/-- Looks for the selector's text by recognition, and taps it. A text that is not found leaves the
element not found. -/
def clickRecognised (r : StepRunner) (selector : Selector) (timeout : Nat) : Attempt Unit :=
  match selector.literalText with
  | none => throw (notFound selector timeout)
  | some text => do
    match ← (r.recognition.matchText text).outcome with
    | .ok found => Attempt.call (.tap found.position)
    | .error (.recognitionNotFound _ _) => throw (notFound selector timeout)
    | .error e => throw e

/-- Clicks the element that a lookup found. If it found none, recognition takes over where that is
allowed. -/
def clickFound (r : StepRunner) (selector : Selector) (timeout : Nat) :
    Option Screen.Element → Attempt Unit
  | some e => clickElement e
  | none =>
    if r.recognitionFallback then r.clickRecognised selector timeout
    else throw (notFound selector timeout)

/-- Swipes once. With the wait after it, it takes its duration and the margin at least. -/
def swipe (r : StepRunner) (start finish : Screen.Point) (duration : Nat) : Attempt Unit := do
  let before ← Part.now
  Attempt.call (.swipe start finish duration)
  let after ← Part.now
  Attempt.pause (duration + r.swipeSettle - (after - before)) true

def swipeTimes (r : StepRunner) (start finish : Screen.Point) (duration : Nat) :
    Nat → Attempt Unit
  | 0 => pure ()
  | count + 1 => do
    Attempt.check true
    r.swipe start finish duration
    swipeTimes r start finish duration count

/-- The lower and the upper end of a page swipe, in the middle of the screen, if three times the
height fits its word. -/
def pageEnds (size : Screen.Size) : Screen.Point × Screen.Point :=
  let x := size.width / 2
  (⟨x, size.height * 3 / 4⟩, ⟨x, size.height / 4⟩)

def pageSwipe (r : StepRunner) (up : Bool) (count : UInt32) (duration : Nat) : Attempt Unit := do
  let size ← Attempt.call .screenSize
  Part.checked (Screen.Fits (3 * size.height.toInt))
  let (low, high) := pageEnds size
  if up then r.swipeTimes low high duration count.toNat
  else r.swipeTimes high low duration count.toNat

/-- Clicks, dwells and goes back for as long as the element is there, in up to `rounds` rounds. -/
def clickRounds (r : StepRunner) (selector : Selector) (dwell : Nat) :
    (rounds : Nat) → (clicks : Nat) → Attempt Unit
  | 0, clicks => do
    let shown := selector.print
    Part.say .warn
      s!"loop on {shown} hit the {roundLimit}-iteration cap after {clicks} clicks"
  | rounds + 1, clicks => do
    match ← r.lookup.findOnce selector r.lookup.interval true with
    | none => Part.say .info s!"loop on {selector.print} finished after {clicks} clicks"
    | some e =>
      match ← (clickElement e).outcome with
      | .error e =>
        Part.say .warn s!"click inside loop on {selector.print} failed: {e.message}"
        Attempt.pause retryDelay true
        clickRounds r selector dwell rounds clicks
      | .ok _ =>
        Attempt.pause dwell true
        Attempt.call .back
        Attempt.pause returnSettle true
        clickRounds r selector dwell rounds (clicks + 1)

/-- Carries out one action of a task. -/
def act (r : StepRunner) (task : Task) : Action → Attempt Unit
  | .launch timeout => r.launchApp task.package timeout
  | .click selector timeout => do
    r.clickFound selector timeout (← r.lookup.findOnce selector timeout true)
  | .waitClick selector timeout => do
    r.clickFound selector timeout (← r.lookup.resolve selector timeout true)
  | .waitExists selector timeout => do
    if (← r.lookup.resolve selector timeout true).isNone then throw (notFound selector timeout)
  | .clickImage text retries timeout => do
    let found ← r.recognition.matchWith text retries timeout
    Attempt.call (.tap found.position)
  | .swipe start finish duration => r.swipe start finish duration
  | .swipeUp count duration => r.pageSwipe true count duration
  | .swipeDown count duration => r.pageSwipe false count duration
  | .back => do
    Attempt.call .back
    Attempt.pause r.navSettle true
  | .home => do
    Attempt.call .home
    Attempt.pause r.navSettle true
  | .sleep duration => Attempt.pause duration true
  | .input selector text timeout => do
    match ← r.lookup.resolve selector timeout true with
    | some e => Attempt.call (.setText e text)
    | none => throw (notFound selector timeout)
  | .screenshot template => do
    let path := screenshotPath template task.name task.id (← Part.localTime)
    Attempt.call (.screenshot path)
    Part.say .info s!"[{task.name}] screenshot saved: {path}"
  | .clickLoop selector dwell => r.clickRounds selector dwell roundLimit 0

/-- Carries out one step. One that does not satisfy its verb fails. -/
def runStep (r : StepRunner) (task : Task) (step : Step) : Attempt Unit :=
  match step.action with
  | .ok action => r.act task action
  | .error fault => throw (.malformed fault.message)

/-- Carries out the steps from place `index` on, of `total`, with a delay after each. A stop in the
delay after the last step comes too late. -/
def runStepsFrom (r : StepRunner) (task : Task) (taskIndex total delay : Nat) :
    (index : Nat) → List Step → ExceptT StepFailure (Process interface) Unit
  | _, [] => pure ()
  | index, step :: later => do
    if ← Part.isStopped then throw ⟨index, step.description, .stopped, index⟩
    let place := s!"{index + 1}/{total}"
    Part.progress taskIndex (stepPercent index total) s!"step {place}" .running
    Part.say .info s!"[{task.name}] executing step {place}: {step.description}"
    match ← (r.runStep task step).run with
    | .error e =>
      if !e.isStop then
        Part.say .error s!"[{task.name}] step {place} '{step.description}' failed: {e.message}"
      throw ⟨index, step.description, e, index + 1⟩
    | .ok _ =>
      let stopped ← Part.pause delay true
      match later with
      | next :: _ => if stopped then throw ⟨index + 1, next.description, .stopped, index + 1⟩
      | [] => pure ()
      runStepsFrom r task taskIndex total delay (index + 1) later

/-- Carries out all steps of a task, which is at `taskIndex` in the run, and gives their number. -/
def runSteps (r : StepRunner) (task : Task) (taskIndex : Nat) :
    ExceptT StepFailure (Process interface) Nat := do
  let total := task.steps.length
  r.runStepsFrom task taskIndex total (task.stepDelay.getD r.stepDelay) 0 task.steps
  pure total

end StepRunner

end CheckIn.Run

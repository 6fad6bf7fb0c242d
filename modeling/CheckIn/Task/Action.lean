import CheckIn.Selector.Parser
import CheckIn.Task.Verb
import CheckIn.TaskFile.Basic
import CheckIn.Text.Quoted

/-! Actions: what steps do once their fields have been checked and their selectors read. -/

namespace CheckIn

variable [Pattern.Library]

inductive Action where
  | launch (timeout : Nat)
  /-- Looks once, then clicks. -/
  | click (selector : Selector) (timeout : Nat)
  /-- Looks until the element is there, then clicks. -/
  | waitClick (selector : Selector) (timeout : Nat)
  | waitExists (selector : Selector) (timeout : Nat)
  | clickImage (text : String) (retries : UInt32) (timeout : Option Nat)
  | swipe (start finish : Screen.Point) (duration : Nat)
  | swipeUp (count : UInt32) (duration : Nat)
  | swipeDown (count : UInt32) (duration : Nat)
  | back
  | home
  | sleep (duration : Nat)
  | input (selector : Selector) (text : String) (timeout : Nat)
  | screenshot (template : String)
  /-- Clicks, dwells and goes back for as long as the element is there. -/
  | clickLoop (selector : Selector) (dwell : Nat)

def Action.verb : Action → Verb
  | launch _ => .launch
  | click _ _ => .click
  | waitClick _ _ => .waitClick
  | waitExists _ _ => .waitExists
  | clickImage _ _ _ => .clickImage
  | swipe _ _ _ => .swipe
  | swipeUp _ _ => .swipeUp
  | swipeDown _ _ => .swipeDown
  | back => .back
  | home => .home
  | sleep _ => .sleep
  | input _ _ _ => .input
  | screenshot _ => .screenshot
  | clickLoop _ _ => .clickLoop

/-- What the fields that a step leaves out stand for. -/
structure StepDefaults where
  timeout : Nat
  launchTimeout : Nat
  retries : UInt32
  screenshotTemplate : String

/-- Why a step cannot be carried out. -/
inductive StepFault where
  | unknownVerb (word : String)
  | missing (verb : Verb) (field : String)
  | selector (verb : Verb) (text : String) (error : SelectorError)
  | noCount (verb : Verb)

def StepFault.message : StepFault → String
  | unknownVerb word => s!"unknown action `{word}`"
  | missing verb field => s!"`{verb.name}` requires `{field}`"
  | selector verb text error =>
    s!"`{verb.name}` selector {Text.quoted text}: {error.message}"
  | noCount verb => s!"`{verb.name}` needs count >= 1"

namespace RawStep

/-- A field that the verb needs. -/
def need {α : Type} (verb : Verb) (field : String) : Option α → Except StepFault α
  | some value => .ok value
  | none => .error (.missing verb field)

/-- The selector, which the verb needs. -/
def needSelector (step : RawStep) (verb : Verb) : Except StepFault Selector := do
  let text ← need verb "selector" step.selector
  match Selector.parse text with
  | .ok selector => pure selector
  | .error e => throw (.selector verb text e)

/-- How often a page is swiped. -/
def swipeCount (step : RawStep) (verb : Verb) : Except StepFault UInt32 :=
  match step.count.getD 1 with
  | 0 => .error (.noCount verb)
  | count => .ok count

/-- The action of a step with the given verb. -/
def actionOf (step : RawStep) (defaults : StepDefaults) (verb : Verb) : Except StepFault Action :=
  let timeout := step.timeout.getD defaults.timeout
  match verb with
  | .launch => pure (.launch (step.timeout.getD defaults.launchTimeout))
  | .click => return .click (← step.needSelector verb) timeout
  | .waitClick => return .waitClick (← step.needSelector verb) timeout
  | .waitExists => return .waitExists (← step.needSelector verb) timeout
  | .clickImage => do
    let text ← need verb "text" step.text
    pure (.clickImage (Text.unquote text) (step.retries.getD defaults.retries) step.timeout)
  | .swipe => do
    let (x, y) ← need verb "start" step.start
    let (x', y') ← need verb "end" step.finish
    pure (.swipe ⟨x, y⟩ ⟨x', y'⟩ (step.duration.getD 300))
  | .swipeUp => return .swipeUp (← step.swipeCount verb) (step.duration.getD 500)
  | .swipeDown => return .swipeDown (← step.swipeCount verb) (step.duration.getD 500)
  | .back => pure .back
  | .home => pure .home
  | .sleep => return .sleep (← need verb "duration" step.duration)
  | .input => do
    let selector ← step.needSelector verb
    let text ← need verb "text" step.text
    pure (.input selector text timeout)
  | .screenshot => pure (.screenshot (step.path.getD defaults.screenshotTemplate))
  | .clickLoop => return .clickLoop (← step.needSelector verb) (step.dwell.getD 6000)

/-- Checks a step against what its verb needs. -/
def compile (step : RawStep) (defaults : StepDefaults) : Except StepFault Action :=
  match Verb.ofName? step.action with
  | some verb => step.actionOf defaults verb
  | none => .error (.unknownVerb (Text.trim step.action))

end RawStep

end CheckIn

import CheckIn.Failure

/-! Why steps fail. -/

namespace CheckIn.Run

/-- Why a step failed. -/
inductive StepError where
  | elementNotFound (selector : String) (timeout : Nat)
  | recognitionNotFound (text : String) (attempts : Nat)
  | malformed (reason : String)
  | stopped
  | appLifecycle (problem : String)
  | device (problem : String)
  deriving DecidableEq

namespace StepError

def ofFailure (f : Failure) : StepError := device f.chain

def message : StepError → String
  | elementNotFound selector timeout => s!"element not found: {selector} (after {timeout}ms)"
  | recognitionNotFound text attempts =>
    s!"text not recognised on screen: \"{text}\" ({attempts} attempts)"
  | malformed reason => s!"cannot dispatch step: {reason}"
  | stopped => "stopped by user"
  | appLifecycle problem => s!"app lifecycle: {problem}"
  | device problem => s!"device error: {problem}"

def isStop : StepError → Bool
  | stopped => true
  | _ => false

end StepError

/-- Where a task ended early. -/
structure StepFailure where
  /-- The step that failed, or the one before which the run was stopped. -/
  stepIndex : Nat
  description : String
  error : StepError
  /-- The steps that were begun, the failed one included. -/
  stepsExecuted : Nat

end CheckIn.Run

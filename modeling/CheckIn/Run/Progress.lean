import CheckIn.Log.Event

/-! What a run tells about itself: the progress of each task, messages, and log events. -/

namespace CheckIn.Run

/-- The colour that shows the state of a task. -/
inductive Color where
  | pending
  | running
  | succeeded
  | failed
  | stopped
  deriving DecidableEq

namespace Color

def hex : Color → String
  | pending => "#666666"
  | running => "#FF9800"
  | succeeded => "#4CAF50"
  | failed => "#F44336"
  | stopped => "#FF5722"

def name : Color → String
  | pending => "pending"
  | running => "running"
  | succeeded => "succeeded"
  | failed => "failed"
  | stopped => "stopped"

end Color

/-- How far a task of the run has come. -/
structure Progress where
  taskIndex : Nat
  percent : Nat
  text : String
  color : Color

/-- One thing that a run tells: to whoever started it, or to the log alone. -/
inductive Note where
  | progress (progress : Progress)
  | message (level : Log.Level) (text : String)
  | event (event : Log.Event)

/-- A note as the log shows it. -/
def Note.logged : Note → Log.Event
  | progress p =>
    { level := .info, target := "autosign::progress", message := p.text
      fields := [("task_index", .shown (toString p.taskIndex)),
        ("percent", .shown (toString p.percent)), ("color", .shown p.color.hex)] }
  | message level text => ⟨level, "autosign::run", [], text⟩
  | event e => e

/-- What is told when the user interrupts a run. -/
def Note.interrupted : Note :=
  .event ⟨.info, "autosign", [], "Ctrl-C received; stopping after the current step"⟩

/-- The progress of a task before step `index` of `total`, in a byte. -/
def stepPercent (index total : Nat) : Nat :=
  if total = 0 then 30 else (30 + index * 60 / total) % 256

end CheckIn.Run

import CheckIn.Calendar.Moment
import CheckIn.Phone.Call
import CheckIn.Run.Error
import CheckIn.Run.Progress
import CheckIn.Timeline.Basic

/-! What a run asks of its surroundings. Gestures are carried through once they have begun. A query
of the screen is given up when the run is stopped or its deadline comes, and a pause ends when the
run is stopped. A part of the run that does not heed the stop goes on as if there were none.

The program is built with overflow checks: where a number does not fit its word of 32 bits, in a
center, an end of a page swipe, or a count of looks or of tries, it ends with the request
`overflow`, and a stage halts there. What comes after that request is what a build without the
checks does, which goes on with what the word holds; only tries that are counted anew are not
followed any further. -/

namespace CheckIn.Run

open Timeline (Guarded)

inductive Request where
  /-- Calls the phone and waits for the answer. -/
  | call (call : Phone.Call)
  /-- Calls the phone and waits for the answer up to a deadline. -/
  | query (call : Phone.Call) (heed : Bool) (deadline : Option Nat)
  /-- The time in milliseconds. -/
  | now
  | wallClock
  | localTime
  /-- Waits for a number of milliseconds. -/
  | sleep (duration : Nat)
  /-- Waits likewise, and says whether a stop ended the wait or came before it. -/
  | pause (duration : Nat) (heed : Bool)
  | isStopped
  | tell (note : Note)
  /-- Takes the only place for a run, and says whether it was free. -/
  | claim
  /-- Forgets any stop. -/
  | forget
  /-- Gives the place back. -/
  | release
  /-- Finds that a number does not fit its word of 32 bits. -/
  | overflow
  /-- Goes on with tries that are counted anew. Nothing comes after it. -/
  | overrun

abbrev Request.Answer : Request → Type
  | call c => Except Failure c.Reply
  | query c _ _ => Guarded (Except Failure c.Reply)
  | now => Nat
  | wallClock => Calendar.Moment
  | localTime => Calendar.LocalTime
  | pause _ _ | isStopped | claim => Bool
  | sleep _ | tell _ | forget | release | overflow => Unit
  | overrun => Empty

def interface : Interface := ⟨Request, Request.Answer⟩

/-- A part of a run. -/
abbrev Part (α : Type) : Type := Process interface α

/-- A part of a run that may fail. -/
abbrev Attempt (α : Type) : Type := ExceptT StepError (Process interface) α

namespace Part

def call (c : Phone.Call) : Part (Except Failure c.Reply) :=
  Process.perform (I := interface) (.call c)

def query (c : Phone.Call) (heed : Bool) (deadline : Option Nat) :
    Part (Guarded (Except Failure c.Reply)) :=
  Process.perform (I := interface) (.query c heed deadline)

def now : Part Nat := Process.perform (I := interface) .now

def wallClock : Part Calendar.Moment := Process.perform (I := interface) .wallClock

def localTime : Part Calendar.LocalTime := Process.perform (I := interface) .localTime

def sleep (duration : Nat) : Part Unit := Process.perform (I := interface) (.sleep duration)

/-- Waits for a number of milliseconds, and says whether a stop ended the wait. -/
def pause (duration : Nat) (heed : Bool) : Part Bool :=
  Process.perform (I := interface) (.pause duration heed)

def isStopped : Part Bool := Process.perform (I := interface) .isStopped

def tell (note : Note) : Part Unit := Process.perform (I := interface) (.tell note)

/-- Tells how far a task has come, with no more than 100 percent. -/
def progress (taskIndex percent : Nat) (text : String) (color : Color) : Part Unit :=
  tell (.progress ⟨taskIndex, min percent 100, text, color⟩)

def say (level : Log.Level) (text : String) : Part Unit := tell (.message level text)

/-- Writes to the log alone. -/
def log (level : Log.Level) (target message : String) (fields : List (String × Log.Value)) :
    Part Unit :=
  tell (.event ⟨level, target, fields, message⟩)

def claim : Part Bool := Process.perform (I := interface) .claim

def forget : Part Unit := Process.perform (I := interface) .forget

def release : Part Unit := Process.perform (I := interface) .release

def overflow : Part Unit := Process.perform (I := interface) .overflow

def overrun : Part Empty := Process.perform (I := interface) .overrun

/-- Goes on with a number that fits its word, and else overflows. -/
def checked (fits : Prop) [Decidable fits] : Part Unit := if fits then pure () else overflow

end Part

namespace Attempt

/-- Calls the phone; a failure fails the step. -/
def call (c : Phone.Call) : Attempt c.Reply := do
  match ← Part.call c with
  | .ok reply => pure reply
  | .error failure => throw (.ofFailure failure)

/-- Goes on with the outcome, whatever it is. -/
def outcome {α : Type} (a : Attempt α) : Attempt (Except StepError α) := ExceptT.lift a.run

/-- Fails if the run has been stopped. -/
def check (heed : Bool) : Attempt Unit := do
  if heed then
    if ← Part.isStopped then throw .stopped

/-- Waits for a number of milliseconds; fails if the run is stopped before it is over. -/
def pause (duration : Nat) (heed : Bool) : Attempt Unit := do
  if ← Part.pause duration heed then throw .stopped

/-- Calls the phone for as long as neither a stop nor the deadline comes; nothing if the deadline
does. -/
def query (c : Phone.Call) (heed : Bool) (deadline : Option Nat) :
    Attempt (Option (Except Failure c.Reply)) := do
  match ← Part.query c heed deadline with
  | .answered answer => pure (some answer)
  | .timedOut => pure none
  | .stopped => throw .stopped

/-- Counts one more than `count`, in a word of 32 bits. -/
def countOn (count : Nat) : Attempt Nat := do
  if count + 1 < UInt32.size then pure (count + 1)
  else
    Part.overflow
    nomatch ← Part.overrun

end Attempt

end CheckIn.Run

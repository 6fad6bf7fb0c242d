import CheckIn.Failure
import CheckIn.Phone.Call

/-! Faults: calls of a rehearsal that fail before they come to the phone. -/

namespace CheckIn.Rehearsal

/-- The kinds of calls. -/
inductive Kind where
  | findAll
  | click
  | setText
  | foreground
  | screenSize
  | tap
  | swipe
  | back
  | home
  | recents
  | launch
  | forceStop
  | screenshot
  | detect
  deriving DecidableEq

def Kind.of : Phone.Call → Kind
  | .findAll _ => findAll
  | .click _ => click
  | .setText _ _ => setText
  | .foreground => foreground
  | .screenSize => screenSize
  | .tap _ => tap
  | .swipe _ _ _ => swipe
  | .back => back
  | .home => home
  | .recents => recents
  | .launch _ => launch
  | .forceStop _ => forceStop
  | .screenshot _ => screenshot
  | .detect => detect

/-- Makes calls of a kind fail. -/
structure Fault where
  kind : Kind
  failure : Failure
  /-- How many calls it lets pass first. -/
  skip : Nat
  /-- How many calls it makes fail after that; all of them if there is no number. -/
  times : Option Nat

/-- The failure of a call by the first fault that strikes, and the faults after it. -/
def strike (kind : Kind) : List Fault → Option Failure × List Fault
  | [] => (none, [])
  | f :: fs =>
    let pass := fun (f : Fault) =>
      let (failure, fs) := strike kind fs
      (failure, f :: fs)
    if f.kind ≠ kind ∨ f.times = some 0 ∧ f.skip = 0 then pass f
    else if f.skip > 0 then pass { f with skip := f.skip - 1 }
    else (some f.failure, { f with times := f.times.map (· - 1) } :: fs)

end CheckIn.Rehearsal

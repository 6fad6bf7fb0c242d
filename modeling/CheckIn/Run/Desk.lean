import CheckIn.Phone.Bridge
import CheckIn.Run.Gate
import CheckIn.Run.Staging

/-! The desk from which runs are carried out over a bridge to a phone. -/

namespace CheckIn.Run

open Timeline

/-- A desk. What carries out the commands there is in `P`. -/
structure Desk (P : Type) where
  programs : P
  snapshot : Option Phone.Snapshot
  /-- What has been told so far. -/
  notes : List Note
  gate : Gate

namespace Desk

variable {P : Type}

def ofPrograms (programs : P) : Desk P := ⟨programs, none, [], .vacant⟩

def raised (d : Desk P) (_ : Unit) : Bool := d.gate.stopRequested

/-- What goes on at a desk. -/
abbrev Script (P α : Type) : Type := Timeline.Script (Desk P) α

/-- Meets what a bridge asks for, where commands are carried out by `execute`. -/
def meet (execute : Phone.Command → Script P (Except String Phone.Outcome)) :
    (q : Phone.Bridge.Request) → Script P (Phone.Bridge.Request.Answer q)
  | .execute command => execute command
  | .now => Script.now
  | .kept => do pure (← Script.get).snapshot
  | .keep snapshot => Script.modify ({ · with snapshot })
  | .overflow => do nomatch ← Script.halt

/-- The phone at the other end of a bridge answers a call. -/
def reply (execute : Phone.Command → Script P (Except String Phone.Outcome))
    (bridge : Phone.Bridge) (c : Phone.Call) : Script P (Except Failure c.Reply) :=
  (bridge.meet c).run.interpret (meet execute)

/-- Carries out runs on the phone at the other end of a bridge. The clock started at a moment, which
was `localStart` seconds after the start of 1970 by the local calendar. -/
def staging (execute : Phone.Command → Script P (Except String Phone.Outcome))
    (bridge : Phone.Bridge) (start : Calendar.Moment) (localStart : Int) :
    Staging (Desk P) Unit where
  reply := reply execute bridge
  stop := ()
  raised := raised
  tell note d := { d with notes := d.notes ++ [note] }
  claim d :=
    let (isFree, gate) := d.gate.enter
    (isFree, { d with gate })
  forget d := { d with gate := d.gate.forget }
  release d := { d with gate := d.gate.leave }
  wallClock now := start.later now
  localTime now := .ofSeconds (localStart + now / 1000)

end Desk

end CheckIn.Run

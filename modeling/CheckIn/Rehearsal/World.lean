import CheckIn.Phone.Scripted
import CheckIn.Rehearsal.Fault
import CheckIn.Run.Gate
import CheckIn.Run.Staging

/-! The world of a rehearsal: runs are carried out on a scripted phone and on a clock that moves
only while something waits. Beside the runs there is a hand that tries out single parts of them,
with a stop and a place of its own. -/

namespace CheckIn.Rehearsal

open Timeline

/-- The place of the hand: when its work began, and its task with the time at which that began. -/
structure Place where
  since : Nat
  task : Option (Nat × Nat)

structure World (R : Type) where
  phone : Phone.Scripted
  faults : List Fault
  /-- What is added to the time that calls take. -/
  latencies : List (Kind × Nat)
  /-- What has been told so far. -/
  notes : List Run.Note
  gate : Run.Gate
  /-- Whether the hand has been stopped. -/
  isHandStopped : Bool
  place : Place
  /-- What the cues have come to, and when. -/
  outcomes : List (Nat × R)

/-- Whom a stop concerns. -/
inductive Flag where
  | run
  | hand

variable {R : Type}

def World.start : World R where
  phone := .blank
  faults := []
  latencies := []
  notes := []
  gate := .vacant
  isHandStopped := false
  place := ⟨0, none⟩
  outcomes := []

def World.raised (w : World R) : Flag → Bool
  | .run => w.gate.stopRequested
  | .hand => w.isHandStopped

def World.latency (w : World R) (kind : Kind) : Nat := (w.latencies.lookup kind).getD 0

def World.setLatency (w : World R) (kind : Kind) (duration : Nat) : World R :=
  { w with latencies := (kind, duration) :: w.latencies }

/-- The place of the hand's task, the first if it has none. -/
def World.taskIndex (w : World R) : Nat := (w.place.task.map (·.1)).getD 0

/-- For how long the hand has been at its task, and at its work. -/
def World.elapsed (w : World R) (now : Nat) : Nat × Nat :=
  ((w.place.task.map fun (_, began) => now - began).getD 0, now - w.place.since)

/-- The hand begins its work anew. -/
def World.renew (w : World R) (now : Nat) : World R :=
  { w with isHandStopped := false, place := ⟨now, none⟩ }

/-- The phone answers a call that has come to it, once it has taken its time. -/
def answer (c : Phone.Call) : Script (World R) (Except Failure c.Reply) := do
  let latency := (← Script.get).phone.latency c
  Script.modify fun w => { w with phone := w.phone.receive c }
  Script.wait latency
  let now ← Script.now
  let w ← Script.get
  let (answer, phone) := w.phone.answer now c
  Script.set { w with phone }
  pure answer

/-- A call takes the time that is added to it, and comes to the phone unless a fault strikes. -/
def reply (c : Phone.Call) : Script (World R) (Except Failure c.Reply) := do
  Script.wait ((← Script.get).latency (.of c))
  let w ← Script.get
  let (failure, faults) := strike (.of c) w.faults
  Script.set { w with faults }
  match failure with
  | some failure => pure (.error failure)
  | none => answer c

/-- Carries out runs, or parts of runs by hand. -/
def staging (stop : Flag) : Run.Staging (World R) Flag where
  reply := reply
  stop := stop
  raised := World.raised
  tell note w := { w with notes := w.notes ++ [note] }
  claim w :=
    let (isFree, gate) := w.gate.enter
    (isFree, { w with gate })
  forget w := { w with gate := w.gate.forget }
  release w := { w with gate := w.gate.leave }
  wallClock now := Calendar.Moment.later ⟨0, 0⟩ now
  localTime now := .ofSeconds (now / 1000)

end CheckIn.Rehearsal

import CheckIn.Rehearsal.World
import CheckIn.Timeline.Company

/-! Sessions: operations carried out one after the other on a scripted phone, each with an entry of
what it came to. An operation may leave others for later, which go on beside those that follow. -/

namespace CheckIn.Rehearsal

open Timeline

variable {O C R α : Type}

/-- A deed in the world of a rehearsal. Operations come to an `R`, and those for later are in
`C`. -/
abbrev Deed (C R α : Type) : Type := Course (World R) Flag C α

/-- What an operation came to, and what has happened since the operation before it. -/
structure Entry (R : Type) where
  result : R
  clock : Nat
  gestures : List Phone.Call
  notes : List Run.Note
  /-- What operations for later have come to, and when. -/
  outcomes : List (Nat × R)
  /-- How many queries and detections the phone has seen in all. -/
  queries : Nat
  detects : Nat
  foreground : Option String

namespace Deed

/-- A part of a run that heeds a flag. -/
def part (stop : Flag) (p : Run.Part α) : Deed C R α := (staging stop).carry p

/-- A part of a run that the hand carries out, at the place of its task. -/
def byHand (p : Nat → Run.Part α) : Deed C R α := do
  part .hand (p (← Course.get).taskIndex)

/-- Writes the entry of an operation. -/
def enter (result : R) : Deed C R (Entry R) := do
  let w ← Course.get
  let clock ← Course.now
  Course.set { w with notes := [], outcomes := [], phone.gestures := [] }
  pure ⟨result, clock, w.phone.gestures, w.notes, w.outcomes, w.phone.queries, w.phone.detects,
    w.phone.foreground⟩

def enterAll (act : O → Deed C R R) : List O → Deed C R (List (Entry R))
  | [] => pure []
  | op :: ops => do
    let entry ← enter (← act op)
    pure (entry :: (← enterAll act ops))

/-- An operation for later leaves what it has come to in the world. -/
def leaveOutcome (deed : Deed C R R) : Deed C R Unit := do
  let outcome ← deed
  let now ← Course.now
  Course.modify fun w => { w with outcomes := w.outcomes ++ [(now, outcome)] }

end Deed

/-- The entries of a session; nothing if it takes more than `turns` turns. -/
def rehearse (act : O → Deed C R R) (cue : C → Deed C R R) (turns : Nat) (ops : List O) :
    Option (List (Entry R)) :=
  (Deed.enterAll act ops).inCompany (fun c => Deed.leaveOutcome (cue c)) World.raised turns .start

end CheckIn.Rehearsal

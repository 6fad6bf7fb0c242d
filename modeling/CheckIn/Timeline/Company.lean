import CheckIn.Timeline.Basic

/-! Courses that share a world. The lead goes its course from the start to the end; other courses
start when the cues that it left fall due, and go on while it waits. Only one moves at a time, and
it moves until it has to wait. When all wait, the clock goes forward to the next of their times.
What still waits when the lead has come to its end is dropped. -/

namespace CheckIn.Timeline

variable {W F C α : Type}

/-- A course that waits. -/
structure Pending (W F C α : Type) where
  wake : Nat
  flag : Option F
  next : Bool → Course W F C α

/-- The course from here on, if it need not wait any more. -/
def Pending.resume? (p : Pending W F C α) (raised : W → F → Bool) (s : Scene W) :
    Option (Course W F C α) :=
  if p.flag.any (raised s.world) then some (p.next true)
  else if p.wake ≤ s.clock then some (p.next false)
  else none

/-- Where a course has come to. -/
inductive Turn (W F C α : Type) where
  | ended (value : α)
  | halted
  | waiting (pending : Pending W F C α)

/-- A scene, and the cues for later with the times at which they fall due. -/
structure Stage (W C : Type) extends Scene W where
  cues : List (Nat × C)

/-- Carries a course on until it has to wait. -/
def Course.turn (raised : W → F → Bool) :
    Course W F C α → Stage W C → Turn W F C α × Stage W C
  | .done a, s => (.ended a, s)
  | .ask .now next, s => turn raised (next s.clock) s
  | .ask .get next, s => turn raised (next s.world) s
  | .ask (.set world) next, s => turn raised (next ()) { s with world }
  | .ask (.wait duration flag) next, s =>
    if flag.any (raised s.world) then turn raised (next true) s
    else if duration = 0 then turn raised (next false) s
    else (.waiting ⟨s.clock + duration, flag, next⟩, s)
  | .ask (.schedule delay cue) next, s =>
    turn raised (next ()) { s with cues := s.cues ++ [(s.clock + delay, cue)] }
  | .ask .halt _, s => (.halted, s)

/-- Courses that all wait. -/
structure Company (W F C α : Type) where
  stage : Stage W C
  lead : Pending W F C α
  others : List (Pending W F C Unit)

namespace Company

/-- The first course that need not wait any more, and those that are left. -/
def takeReady (raised : W → F → Bool) (s : Scene W) :
    List (Pending W F C Unit) → Option (Course W F C Unit × List (Pending W F C Unit))
  | [] => none
  | p :: ps => match p.resume? raised s with
    | some course => some (course, ps)
    | none => (takeReady raised s ps).map fun (course, ps) => (course, p :: ps)

/-- The first cue that is due, and those that are left. -/
def takeDue (clock : Nat) : List (Nat × C) → Option (C × List (Nat × C))
  | [] => none
  | (due, cue) :: cues =>
    if due ≤ clock then some (cue, cues)
    else (takeDue clock cues).map fun (found, cues) => (found, (due, cue) :: cues)

/-- The next of the times that something waits for. -/
def nextTime (c : Company W F C α) : Nat :=
  (c.others.map (·.wake) ++ c.stage.cues.map (·.1)).foldl min c.lead.wake

/-- A course other than the lead, and the stage on which it is to move. -/
def chooseOther (act : C → Course W F C Unit) (raised : W → F → Bool) (c : Company W F C α) :
    Option (Course W F C Unit × Stage W C × List (Pending W F C Unit)) :=
  match takeReady raised c.stage.toScene c.others with
  | some (course, others) => some (course, c.stage, others)
  | none => (takeDue c.stage.clock c.stage.cues).map fun (cue, cues) =>
    (act cue, { c.stage with cues }, c.others)

/-- Lets the courses move one after the other until the lead has come to its end; nothing if one
halts, or if it takes more than `turns` turns. -/
def run (act : C → Course W F C Unit) (raised : W → F → Bool) :
    (turns : Nat) → Company W F C α → Option α
  | 0, _ => none
  | turns + 1, c =>
    match c.chooseOther act raised with
    | some (course, stage, others) => match course.turn raised stage with
      | (.ended _, stage) => run act raised turns { c with stage, others }
      | (.halted, _) => none
      | (.waiting p, stage) => run act raised turns { c with stage, others := others ++ [p] }
    | none => match c.lead.resume? raised c.stage.toScene with
      | some course => match course.turn raised c.stage with
        | (.ended a, _) => some a
        | (.halted, _) => none
        | (.waiting lead, stage) => run act raised turns { c with stage, lead }
      | none => run act raised turns { c with stage.clock := c.nextTime }

end Company

/-- Carries out a course together with those that its cues start. -/
def Course.inCompany (act : C → Course W F C Unit) (raised : W → F → Bool) (turns : Nat)
    (course : Course W F C α) (world : W) : Option α :=
  match course.turn raised ⟨⟨0, world⟩, []⟩ with
  | (.ended a, _) => some a
  | (.halted, _) => none
  | (.waiting lead, stage) => Company.run act raised turns ⟨stage, lead, []⟩

end CheckIn.Timeline

import CheckIn.Process

/-! Scripts and courses: processes that take time in a world that they share. A script reads and
changes the world and waits. A course waits more carefully: a flag of the world that is raised ends
the wait, and a cue can be left for later. A script that is guarded becomes a course that ends no
later than a deadline and as soon as its flag is raised. -/

namespace CheckIn.Timeline

/-- A world at a time. -/
structure Scene (W : Type) where
  clock : Nat
  world : W

namespace Script

inductive Request (W : Type) where
  /-- The time in milliseconds. -/
  | now
  | get
  | set (world : W)
  | wait (duration : Nat)
  /-- Ends everything. -/
  | halt

abbrev Request.Answer {W : Type} : Request W → Type
  | now => Nat
  | get => W
  | set _ | wait _ => Unit
  | halt => Empty

def interface (W : Type) : Interface := ⟨Request W, Request.Answer⟩

end Script

/-- Something that takes time in the world `W` and cannot be cut short from within. -/
abbrev Script (W α : Type) : Type := Process (Script.interface W) α

namespace Course

inductive Request (W F C : Type) where
  /-- The time in milliseconds. -/
  | now
  | get
  | set (world : W)
  /-- Waits until the time is over or the flag is raised, and says whether it is raised. -/
  | wait (duration : Nat) (flag : Option F)
  /-- Leaves a cue for later. -/
  | schedule (delay : Nat) (cue : C)
  /-- Ends everything. -/
  | halt

abbrev Request.Answer {W F C : Type} : Request W F C → Type
  | now => Nat
  | get => W
  | set _ | schedule _ _ => Unit
  | wait _ _ => Bool
  | halt => Empty

def interface (W F C : Type) : Interface := ⟨Request W F C, Request.Answer⟩

end Course

/-- Something that takes time in the world `W`, heeds flags of `F`, and leaves cues of `C`. -/
abbrev Course (W F C α : Type) : Type := Process (Course.interface W F C) α

variable {W F C α : Type}

namespace Script

def now : Script W Nat := Process.perform (I := interface W) .now

def get : Script W W := Process.perform (I := interface W) .get

def set (world : W) : Script W Unit := Process.perform (I := interface W) (.set world)

def wait (duration : Nat) : Script W Unit := Process.perform (I := interface W) (.wait duration)

def halt : Script W Empty := Process.perform (I := interface W) .halt

def modify (f : W → W) : Script W Unit := get >>= fun world => set (f world)

end Script

namespace Course

def now : Course W F C Nat := Process.perform (I := interface W F C) .now

def get : Course W F C W := Process.perform (I := interface W F C) .get

def set (world : W) : Course W F C Unit := Process.perform (I := interface W F C) (.set world)

def wait (duration : Nat) (flag : Option F) : Course W F C Bool :=
  Process.perform (I := interface W F C) (.wait duration flag)

def schedule (delay : Nat) (cue : C) : Course W F C Unit :=
  Process.perform (I := interface W F C) (.schedule delay cue)

def halt : Course W F C Empty := Process.perform (I := interface W F C) .halt

def modify (f : W → W) : Course W F C Unit := get >>= fun world => set (f world)

/-- Reads something in the world and changes it. -/
def modifyGet (f : W → α × W) : Course W F C α := do
  let (a, world) := f (← get)
  set world
  pure a

end Course

/-- How a guarded script ended. -/
inductive Guarded (α : Type) where
  | answered (answer : α)
  | timedOut
  | stopped

namespace Script

/-- Meets a request of a script, with no flag to heed. -/
def carry : (q : Request W) → Course W F C (Request.Answer q)
  | .now => Course.now
  | .get => Course.get
  | .set world => Course.set world
  | .wait duration => do let _ ← Course.wait duration none
  | .halt => Course.halt

/-- Carries a script through to its end. -/
def carried (s : Script W α) : Course W F C α := s.interpret carry

/-- Waits for as long as the deadline allows; nothing if the wait is over in time. A wait up to the
deadline is in time. -/
def waitGuarded (flag : Option F) (deadline : Option Nat) (duration : Nat) :
    Course W F C (Option (Guarded α)) := do
  let now ← Course.now
  let cut := deadline.filter (· < now + duration)
  let raised ← Course.wait ((cut.map (· - now)).getD duration) flag
  pure (if raised then some .stopped else if cut.isSome then some .timedOut else none)

/-- Carries a script on until the deadline comes or the flag is raised. -/
def guarded (flag : Option F) (deadline : Option Nat) : Script W α → Course W F C (Guarded α)
  | .done a => pure (.answered a)
  | .ask .now next => do guarded flag deadline (next (← Course.now))
  | .ask .get next => do guarded flag deadline (next (← Course.get))
  | .ask (.set world) next => do guarded flag deadline (next (← Course.set world))
  | .ask (.wait duration) next => do
    match ← waitGuarded flag deadline duration with
    | some early => pure early
    | none => guarded flag deadline (next ())
  | .ask .halt _ => do nomatch ← Course.halt

end Script

end CheckIn.Timeline

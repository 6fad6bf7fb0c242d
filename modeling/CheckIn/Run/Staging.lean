import CheckIn.Run.Request

/-! Staging: carrying out a run in a world. The world says how it meets what a run asks for, and the
run becomes a course in it. -/

namespace CheckIn.Run

open Timeline

/-- How the world `W` meets what a run asks for. -/
structure Staging (W F : Type) where
  reply : (c : Phone.Call) → Script W (Except Failure c.Reply)
  /-- The flag that stops the run. -/
  stop : F
  raised : W → F → Bool
  tell : Note → W → W
  /-- Takes the place for a run, and says whether it was free. -/
  claim : W → Bool × W
  forget : W → W
  release : W → W
  /-- The time of day at a time of the clock. -/
  wallClock : Nat → Calendar.Moment
  localTime : Nat → Calendar.LocalTime

namespace Staging

variable {W F C α : Type}

/-- The flag to heed, if the stop is heeded. -/
def flag (s : Staging W F) (heed : Bool) : Option F := if heed then some s.stop else none

/-- Meets one request. A query is not begun once its flag is raised. A number that does not fit its
word ends everything. -/
def meet (s : Staging W F) : (q : Request) → Course W F C (Request.Answer q)
  | .call c => (s.reply c).carried
  | .query c heed deadline => do
    if (s.flag heed).any (s.raised (← Course.get)) then pure .stopped
    else (s.reply c).guarded (s.flag heed) deadline
  | .now => Course.now
  | .wallClock => do pure (s.wallClock (← Course.now))
  | .localTime => do pure (s.localTime (← Course.now))
  | .sleep duration => do let _ ← Course.wait duration none
  | .pause duration heed => Course.wait duration (s.flag heed)
  | .isStopped => do pure (s.raised (← Course.get) s.stop)
  | .tell note => Course.modify (s.tell note)
  | .claim => Course.modifyGet s.claim
  | .forget => Course.modify s.forget
  | .release => Course.modify s.release
  | .overflow => do nomatch ← Course.halt
  | .overrun => Course.halt

/-- A part of a run as a course in the world. -/
def carry (s : Staging W F) (part : Part α) : Course W F C α := part.interpret s.meet

end Staging

end CheckIn.Run

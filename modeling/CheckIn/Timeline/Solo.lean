import CheckIn.Timeline.Basic

/-! A course that is alone in its world: nothing happens while it waits, so each wait takes its
whole duration unless the flag is raised already. -/

namespace CheckIn.Timeline

variable {W F α : Type}

namespace Course

/-- Carries out a course that leaves no cues; nothing if it halts. -/
def alone (raised : W → F → Bool) : Course W F Empty α → Scene W → Option α × Scene W
  | .done a, s => (some a, s)
  | .ask .now next, s => alone raised (next s.clock) s
  | .ask .get next, s => alone raised (next s.world) s
  | .ask (.set world) next, s => alone raised (next ()) { s with world }
  | .ask (.wait duration flag) next, s =>
    if flag.any (raised s.world) then alone raised (next true) s
    else alone raised (next false) { s with clock := s.clock + duration }
  | .ask .halt _, s => (none, s)

end Course

end CheckIn.Timeline

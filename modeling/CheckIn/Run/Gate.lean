/-! The gate that runs pass: one at a time. A stop that is asked for while nobody is inside meets
the next run. A run that leaves forgets the stop, and gives its place back after that. A stop that
comes in between meets the next run as well. -/

namespace CheckIn.Run

structure Gate where
  isTaken : Bool
  stopRequested : Bool
  deriving DecidableEq

namespace Gate

def vacant : Gate := ⟨false, false⟩

/-- Lets a run in, and says whether the gate was free. -/
def enter (g : Gate) : Bool × Gate := (!g.isTaken, { g with isTaken := true })

/-- Forgets the stop that has met a run. -/
def forget (g : Gate) : Gate := { g with stopRequested := false }

def leave (g : Gate) : Gate := { g with isTaken := false }

def stop (g : Gate) : Gate := { g with stopRequested := true }

end Gate

end CheckIn.Run

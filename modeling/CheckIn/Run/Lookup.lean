import CheckIn.Run.Request

/-! Lookups: looking for an element until it is there or the time is up. -/

namespace CheckIn.Run

/-- How lookups look: with at least a millisecond between two looks. -/
structure Lookup where
  interval : Nat
  interval_pos : 0 < interval

namespace Lookup

def ofInterval (interval : Nat) : Lookup := ⟨max interval 1, by omega⟩

/-- The elements for which an atom holds; nothing if the deadline came first. A call that fails
finds none. -/
def candidates (heed : Bool) (deadline : Nat) (atom : Atom) :
    Attempt (Option (List Screen.Element)) := do
  match ← Attempt.query (.findAll (.one atom)) heed (some deadline) with
  | some (.ok found) => pure (some found)
  | some (.error _) => pure (some [])
  | none => pure none

/-- Keeps of the elements so far those for which every atom holds, one call after the other.
Nothing is left if the deadline comes. -/
def narrow (heed : Bool) (deadline : Nat) : List Atom → List Screen.Element →
    Attempt (List Screen.Element)
  | [], kept => pure kept
  | atom :: atoms, kept => do
    match ← candidates heed deadline atom with
    | none => pure []
    | some found =>
      match kept.filter (found.contains ·) with
      | [] => pure []
      | kept => narrow heed deadline atoms kept

/-- Looks once: the first element on the screen for which the selector holds. -/
def look (heed : Bool) (deadline : Nat) : Selector → Attempt (Option Screen.Element)
  | .one atom => do pure ((← candidates heed deadline atom).bind List.head?)
  | .all [] _ => pure none
  | .all (atom :: atoms) clickable => do
    match ← candidates heed deadline atom with
    | none | some [] => pure none
    | some found =>
      let kept ← narrow heed deadline atoms found
      pure (kept.find? fun e => clickable.all (e.clickable == ·))

/-- Looks until an element is there or the deadline has come, up to `fuel` times. A look takes no
longer than an interval, or up to the deadline. Nothing else depends on the count of looks. -/
def poll (l : Lookup) (selector : Selector) (heed : Bool) (deadline : Nat) :
    (fuel : Nat) → (looks : UInt32) → Attempt (Option Screen.Element)
  | 0, _ => pure none
  | fuel + 1, looks => do
    Attempt.check heed
    Part.checked (looks.toNat + 1 < UInt32.size)
    let looks := looks + 1
    let before ← Part.now
    match ← look heed (max deadline (before + l.interval)) selector with
    | some element => pure (some element)
    | none =>
      let after ← Part.now
      if deadline ≤ after then pure none
      else
        Attempt.pause (min l.interval (deadline - after)) heed
        poll l selector heed deadline fuel looks

/-- Looks until an element is there or the timeout is over. The pauses between looks leave time
for no more than one look in each interval. -/
def resolve (l : Lookup) (selector : Selector) (timeout : Nat) (heed : Bool) :
    Attempt (Option Screen.Element) := do
  let started ← Part.now
  l.poll selector heed (started + timeout) (timeout / l.interval + 2) 0

/-- Looks once, for as long as the timeout and at least an interval. -/
def findOnce (l : Lookup) (selector : Selector) (timeout : Nat) (heed : Bool) :
    Attempt (Option Screen.Element) := do
  Attempt.check heed
  let started ← Part.now
  look heed (started + max timeout l.interval) selector

end Lookup

end CheckIn.Run

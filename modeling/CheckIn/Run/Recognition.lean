import CheckIn.Decimal.Shortest
import CheckIn.Run.Request
import CheckIn.Run.Target
import CheckIn.Text.Blank

/-! Recognition: looking for a text on the screen where the layout does not show it. -/

namespace CheckIn.Run

/-- How recognition is tried: the score to exceed, how often to try again, and the pause before. -/
structure Recognition where
  threshold : Float32
  retries : UInt32
  backoff : Nat

/-- A text that was found. -/
structure TextMatch where
  position : Screen.Point
  label : String
  confidence : Float32

namespace Recognition

def ofDetection (d : Screen.Detection) : TextMatch := ⟨d.bounds.center, d.label, d.confidence⟩

/-- Tries to find the target, and `left` more times after that. A time to give up ends the tries
once it has passed. -/
def tries (r : Recognition) (target : String) (giveUp : Option Nat) :
    (left : Nat) → (attempts : Nat) → Attempt TextMatch
  | left, attempts => do
    Attempt.check true
    let attempts ← Attempt.countOn attempts
    let found := match ← Attempt.query .detect true none with
      | some (.ok detections) => selectTarget r.threshold target detections
      | _ => none
    match found with
    | some d =>
      Part.checked d.bounds.SumsFit
      Part.log .info "autosign::locate::recognition" "recognised target text"
        [("target_text", .text target), ("label", .shown d.label),
         ("confidence", .shown (Decimal.Shape.of64 d.confidence.toFloat).pointed),
         ("attempts", .shown (toString attempts))]
      pure (ofDetection d)
    | none =>
      let now ← Part.now
      match left with
      | 0 => throw (.recognitionNotFound target attempts)
      | left + 1 =>
        if giveUp.any (· ≤ now) then throw (.recognitionNotFound target attempts)
        Attempt.pause r.backoff true
        tries r target giveUp left attempts

/-- Finds a text, quotes at its ends apart, with up to `retries` more tries and no new one after
the budget is spent. -/
def matchWith (r : Recognition) (text : String) (retries : UInt32) (budget : Option Nat) :
    Attempt TextMatch := do
  let started ← Part.now
  r.tries (Text.unquote text) (budget.map (started + ·)) retries.toNat 0

/-- Finds a text with the usual number of tries. -/
def matchText (r : Recognition) (text : String) : Attempt TextMatch :=
  r.matchWith text r.retries none

end Recognition

end CheckIn.Run

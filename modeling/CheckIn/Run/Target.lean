import CheckIn.Screen.Element
import CheckIn.Text.Parts

/-! Choosing among the texts that recognition found. -/

namespace CheckIn.Run

/-- What a target text may not be below or at. -/
def standardThreshold : Float32 := 0.6

/-- Whether a detection shows the target, with a score above the threshold. -/
def shows (threshold : Float32) (target : String) (d : Screen.Detection) : Bool :=
  Text.contains target.toList d.label.toList && threshold < d.confidence

/-- The first detection that shows the target. -/
def selectTarget (threshold : Float32) (target : String) (detections : List Screen.Detection) :
    Option Screen.Detection :=
  detections.find? (shows threshold target)

end CheckIn.Run

import CheckIn.Screen.Geometry
import CheckIn.Text.Parts

/-! What is seen on the screen: the elements of its layout, and the texts that recognition finds. -/

namespace CheckIn.Screen

/-- An element of the layout. Two looks at an unchanged screen give equal elements. -/
structure Element where
  text : String
  desc : String
  id : String
  className : String
  clickable : Bool
  bounds : Rect
  deriving DecidableEq

namespace Element

def blank : Element := ⟨"", "", "", "", false, .zero⟩

def center (e : Element) : Point := e.bounds.center

/-- The id without the package before the last `:id/`. -/
def shortId (e : Element) : String :=
  match Text.afterLast ":id/".toList e.id.toList with
  | some short => String.ofList short
  | none => e.id

end Element

/-- A text that recognition found, with its score. -/
structure Detection where
  label : String
  confidence : Float32
  bounds : Rect

end CheckIn.Screen

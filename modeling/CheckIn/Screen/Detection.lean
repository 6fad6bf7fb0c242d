import CheckIn.Data
import CheckIn.Json.Reader
import CheckIn.Screen.Element

/-! The texts that recognition finds, as a recognition command prints them in JSON: a list of labels
with their scores and bounds. -/

namespace CheckIn.Screen

/-- The named members of a record, each of which must be there once, or the items of an array in
their place. Other members do not matter. -/
def recordMembers? (names : List String) : Json → Option (List Json)
  | .array items => if items.length = names.length then some items else none
  | .object members =>
    if members.all (·.1.isSome) then
      names.mapM fun name => match members.filter (·.1 == some name) with
        | [(_, value)] => some value
        | _ => none
    else none
  | _ => none

def coordinate? (j : Json) : Option Int32 := (Data.ofJson j).bind Data.int32?

def Rect.ofJson? (j : Json) : Option Rect := do
  match ← recordMembers? ["left", "top", "right", "bottom"] j with
  | [left, top, right, bottom] =>
    pure ⟨← coordinate? left, ← coordinate? top, ← coordinate? right, ← coordinate? bottom⟩
  | _ => none

def Detection.ofJson? (j : Json) : Option Detection := do
  match ← recordMembers? ["label", "confidence", "bounds"] j with
  | [label, confidence, bounds] =>
    pure ⟨← (Data.ofJson label).bind Data.string?, ← (Data.ofJson confidence).bind Data.float32?,
      ← Rect.ofJson? bounds⟩
  | _ => none

/-- Reads what a recognition command has printed. -/
def detectionsOf? (printed : List UInt8) : Option (List Detection) := do
  match ← Json.read printed with
  | .array items => items.mapM Detection.ofJson?
  | _ => none

end CheckIn.Screen

import CheckIn.Screen.Element
import CheckIn.Text.Blank
import CheckIn.Text.Numeral
import CheckIn.Unicode.Class

/-! The layout of the screen as the phone writes it: a text in which every element is a `<node>` tag
with its properties as attributes. Nesting does not matter, and elements come in the order of
their tags. -/

namespace CheckIn.Screen

/-- The character that the name of an entity stands for: one of five names, or the number of a
character in decimal or, after an `x`, in hexadecimal. -/
def entity? (name : List Char) : Option Char :=
  let charOf := fun (n : Nat) => if n.isValidChar then some (Char.ofNat n) else none
  match String.ofList name with
  | "amp" => some '&'
  | "lt" => some '<'
  | "gt" => some '>'
  | "quot" => some '"'
  | "apos" => some '\''
  | _ => match name with
    | '#' :: 'x' :: digits => (Text.nat? 16 digits).bind charOf
    | '#' :: digits => (Text.nat? 10 digits).bind charOf
    | _ => none

/-- Reads an entity after its ampersand, up to the next semicolon. -/
def readEntity (cs : List Char) : Option (Char × List Char) :=
  match cs.dropWhile (· ≠ ';') with
  | [] => none
  | _ :: rest => (entity? (cs.takeWhile (· ≠ ';'))).map (·, rest)

theorem length_of_readEntity {cs rest : List Char} {c : Char}
    (h : readEntity cs = some (c, rest)) : rest.length < cs.length := by
  have hle := (List.dropWhile_suffix (· ≠ ';') (l := cs)).length_le
  unfold readEntity at h
  split at h
  · simp at h
  · rename_i hd
    simp only [Option.map_eq_some_iff, Prod.mk.injEq] at h
    obtain ⟨_, _, _, rfl⟩ := h
    rw [hd, List.length_cons] at hle
    omega

/-- Replaces every entity by its character, once. An ampersand that begins none stays. -/
def unescapeChars : List Char → List Char
  | [] => []
  | '&' :: rest =>
    match _h : readEntity rest with
    | some (c, after) => c :: unescapeChars after
    | none => '&' :: unescapeChars rest
  | c :: rest => c :: unescapeChars rest
termination_by cs => cs.length
decreasing_by
  · have := length_of_readEntity _h
    simp only [List.length_cons]
    omega
  · simp
  · simp

def unescape (s : String) : String := String.ofList (unescapeChars s.toList)

/-- Reads a coordinate. -/
def readCoordinate (cs : List Char) : Option (Int32 × List Char) := do
  let negative := cs.head? == some '-'
  let cs := if negative then cs.tail else cs
  let n ← Text.digits? 10 (cs.takeWhile Char.isDigit)
  let coordinate ← Text.int32? (if negative then -Int.ofNat n else n)
  pure (coordinate, cs.dropWhile Char.isDigit)

/-- Reads a point in brackets. -/
def readCorner : List Char → Option (Int32 × Int32 × List Char)
  | '[' :: cs => do
    let (x, rest) ← readCoordinate cs
    match rest with
    | ',' :: rest =>
      let (y, rest) ← readCoordinate rest
      match rest with
      | ']' :: rest => pure (x, y, rest)
      | _ => none
    | _ => none
  | _ => none

/-- The rectangle that two corners such as `[0,84][1080,2274]` write, blanks around them apart. -/
def Rect.ofText? (text : List Char) : Option Rect := do
  let (left, top, rest) ← readCorner (Text.stripWhile Text.isBlank text)
  let (right, bottom, rest) ← readCorner rest
  guard rest.isEmpty
  pure ⟨left, top, right, bottom⟩

def isAttributeName (c : Char) : Bool := Unicode.isWord c || c == ':' || c == '-'

/-- The attributes of a tag, each with its value as written. -/
def attributes : Nat → List Char → List (String × List Char)
  | 0, _ => []
  | fuel + 1, cs =>
    match cs.dropWhile (!isAttributeName ·) with
    | [] => []
    | cs =>
      let name := String.ofList (cs.takeWhile isAttributeName)
      match cs.dropWhile isAttributeName with
      | '=' :: '"' :: rest =>
        match rest.dropWhile (· ≠ '"') with
        | _ :: after => (name, rest.takeWhile (· ≠ '"')) :: attributes fuel after
        | [] => attributes fuel ('=' :: '"' :: rest)
      | rest => attributes fuel rest

/-- Sets the property that an attribute gives. Bounds that are no rectangle count as zero. -/
def Element.withAttribute (e : Element) (name : String) (value : List Char) : Element :=
  let value := unescapeChars value
  match name with
  | "text" => { e with text := String.ofList value }
  | "content-desc" => { e with desc := String.ofList value }
  | "resource-id" => { e with id := String.ofList value }
  | "class" => { e with className := String.ofList value }
  | "clickable" => { e with clickable := String.ofList value == "true" }
  | "bounds" => { e with bounds := (Rect.ofText? value).getD .zero }
  | _ => e

/-- The element of a tag's attributes. Of several with one name the last counts. -/
def Element.ofAttributes (cs : List Char) : Element :=
  (attributes (cs.length + 1) cs).foldl (fun e (name, value) => e.withAttribute name value) .blank

/-- What follows the first `<node` that is a word of its own. -/
def nodeBody? : List Char → Option (List Char)
  | [] => none
  | c :: rest =>
    let body := (c :: rest).drop 5
    if "<node".toList.isPrefixOf (c :: rest) && !body.head?.any Unicode.isWord then some body
    else nodeBody? rest

/-- The elements of a layout. A tag ends at the first `>`, and one that does not end is none. -/
def elementsOfLayout (xml : String) : List Element :=
  ((Text.splitOn (· == '>') xml.toList).dropLast.filterMap nodeBody?).map Element.ofAttributes

end CheckIn.Screen

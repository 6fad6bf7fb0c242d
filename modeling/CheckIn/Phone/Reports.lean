import CheckIn.Screen.Geometry
import CheckIn.Text.Numeral
import CheckIn.Text.Parts
import CheckIn.Unicode.Class

/-! What the phone's own commands print about its windows and its screen. -/

namespace CheckIn.Phone

/-- The package at the start of a text: an ASCII letter and then word characters and points, up to
a slash. -/
def packageAtStart? : List Char → Option (List Char)
  | c :: rest =>
    let isPart := fun c => Unicode.isWord c || c == '.'
    match c.isAlpha, rest.dropWhile isPart with
    | true, '/' :: _ => some (c :: rest.takeWhile isPart)
    | _, _ => none
  | [] => none

/-- The first package that follows a blank. -/
def packageAfterBlank? : List Char → Option (List Char)
  | c :: rest =>
    (if Text.isBlank c then packageAtStart? rest else none).or (packageAfterBlank? rest)
  | [] => none

/-- What follows the first mark of the window or the app that has the focus. -/
def afterFocusMark? : List Char → Option (List Char)
  | [] => none
  | c :: rest =>
    let marks := ["mCurrentFocus=", "mFocusedApp="]
    match marks.find? fun mark => mark.toList.isPrefixOf (c :: rest) with
    | some mark => some ((c :: rest).drop mark.length)
    | none => afterFocusMark? rest

/-- The package that has the focus, by a list of the windows. -/
def focusedPackage? (windows : String) : Option String :=
  (Text.lines windows.toList).findSome? fun line =>
    ((afterFocusMark? line).bind packageAfterBlank?).map String.ofList

/-- The number of pixels that a text without its outer blanks gives. -/
def pixels? (cs : List Char) : Option Int32 :=
  (Text.int? (Text.stripWhile Text.isBlank cs)).bind Text.int32?

/-- The size in a line that begins with `label`. -/
def sizeOfLine? (label : String) (line : List Char) : Option Screen.Size := do
  let line := Text.stripWhile Text.isBlank line
  if label.toList.isPrefixOf line then
    let (width, height) ← Text.splitAtFirst ['x'] (line.drop label.length)
    pure ⟨← pixels? width, ← pixels? height⟩
  else none

/-- The size of the screen. One that has been set goes before the physical one. -/
def screenSize? (report : String) : Option Screen.Size :=
  let find := fun label => (Text.lines report.toList).findSome? (sizeOfLine? label)
  (find "Override size:").or (find "Physical size:")

end CheckIn.Phone

import CheckIn.Pattern.Basic

/-! What is left open of the library that reads patterns: how much room a compiled pattern may take,
and the classes of those properties whose tables come with the library. Patterns are read and
matched, selectors read and printed, and tasks compiled with any such library. -/

namespace CheckIn.Pattern

/-- The room that a compiled pattern may take, in bytes. -/
def sizeLimit : Nat := 10485760

/-- A library of patterns. -/
class Library where
  /-- Whether what a source is compiled to, which writes a pattern, stays within `sizeLimit`. -/
  fits : (source : List Char) → Pattern → Bool
  /-- The characters with a value of a property that is neither a category nor a script. -/
  valued : (name value : String) → Option (Char → Bool)

end CheckIn.Pattern

import CheckIn.Unicode.Class
import CheckIn.Unicode.Folding
import CheckIn.Unicode.Script

/-! Sets of characters as the pattern language writes them, kept as written and asked for
membership. -/

namespace CheckIn.Pattern

/-- Where a script property looks: at the script alone or at its extension. -/
inductive ScriptScope where
  | alone
  | extended

/-- A named class of characters. -/
inductive ClassName where
  | digit
  | word
  | blank
  | asciiDigit
  | asciiWord
  | asciiBlank
  | any
  | assigned
  | ascii
  | categories (members : List Unicode.Category)
  | property (property : Unicode.Property)
  | script (script : Unicode.Script) (scope : ScriptScope)
  | other (holds : Char → Bool)

namespace ClassName

def holds : ClassName → Char → Bool
  | digit, c => Unicode.isDigit c
  | word, c => Unicode.isWord c
  | blank, c => Text.isBlank c
  | asciiDigit, c => c.isDigit
  | asciiWord, c => Unicode.isAsciiWord c
  | asciiBlank, c => (9 ≤ c.toNat && c.toNat ≤ 13) || c == ' '
  | any, _ => true
  | assigned, c => Unicode.category c != .cn
  | ascii, c => c.toNat < 0x80
  | categories members, c => members.contains (Unicode.category c)
  | property p, c => p.holds c
  | script s .alone, c => s.holds c
  | script s .extended, c => s.holdsExtended c
  | other holds, c => holds c

end ClassName

/-- A set of characters. `anyCase` adds the characters that differ from a member in case only, and
`anyAsciiCase` those that do so within ASCII. -/
inductive CharSet where
  | none
  | range (first last : Char)
  | named (name : ClassName)
  | negate (set : CharSet)
  | union (left right : CharSet)
  | inter (left right : CharSet)
  | diff (left right : CharSet)
  | symmDiff (left right : CharSet)
  | anyCase (set : CharSet)
  | anyAsciiCase (set : CharSet)

namespace CharSet

/-- The set of one character. -/
def char (c : Char) : CharSet := range c c

def contains : CharSet → Char → Bool
  | none, _ => false
  | range first last, c => first ≤ c && c ≤ last
  | named name, c => name.holds c
  | negate set, c => !set.contains c
  | union left right, c => left.contains c || right.contains c
  | inter left right, c => left.contains c && right.contains c
  | diff left right, c => left.contains c && !right.contains c
  | symmDiff left right, c => left.contains c != right.contains c
  | anyCase set, c => (Unicode.orbit c).any set.contains
  | anyAsciiCase set, c => set.contains c.toLower || set.contains c.toUpper

/-- The characters of a list of ranges. -/
def ofRanges (ranges : List (Char × Char)) : CharSet :=
  ranges.foldr (fun (first, last) set => union (range first last) set) none

end CharSet

end CheckIn.Pattern

import CheckIn.Text.Blank
import CheckIn.Unicode.Property

/-! The character classes that the formats and the pattern language speak of: word characters,
decimal digits and alphanumerics. -/

namespace CheckIn.Unicode

/-- A letter, or a number in the wide sense. Those of ASCII are looked up in no table. -/
def isAlphanumeric (c : Char) : Bool :=
  if c.toNat < 0x80 then c.isAlphanum
  else Property.alphabetic.holds c || (category c).isNumber

/-- A letter, digit or underscore of ASCII. -/
def isAsciiWord (c : Char) : Bool := c.isAlphanum || c == '_'

/-- A character of a word: alphabetic, a mark, a decimal digit, a connector or a joiner. Those of
ASCII are looked up in no table. -/
def isWord (c : Char) : Bool :=
  if c.toNat < 0x80 then isAsciiWord c
  else
    Property.alphabetic.holds c || (category c).isMark || category c == .nd ||
      category c == .pc || Property.joinControl.holds c

/-- A decimal digit of any script. -/
def isDigit (c : Char) : Bool := category c == .nd

end CheckIn.Unicode

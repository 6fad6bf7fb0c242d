import CheckIn.Unicode.Category
import CheckIn.Unicode.Property

/-! Texts between quotes, with escapes for what would not show. -/

namespace CheckIn.Text

/-- Whether a character shows on its own: a space, or one that is neither blank, control nor
unassigned and does not attach to the one before it. -/
def isShown (c : Char) : Bool :=
  if c == ' ' then true
  else match Unicode.category c with
    | .cc | .cf | .cs | .co | .cn | .zl | .zp | .zs => false
    | _ => !Unicode.Property.graphemeExtend.holds c

/-- The escape of a code point: its hexadecimal digits in braces. -/
def unicodeEscape (c : Char) : List Char :=
  "\\u\x7b".toList ++ Nat.toDigits 16 c.toNat ++ ['}']

def quotedChar (c : Char) : List Char :=
  match c with
  | '\t' => ['\\', 't']
  | '\r' => ['\\', 'r']
  | '\n' => ['\\', 'n']
  | '\x00' => ['\\', '0']
  | '\\' => ['\\', '\\']
  | '"' => ['\\', '"']
  | c => if isShown c then [c] else unicodeEscape c

/-- A text between quotes. -/
def quoted (s : String) : String :=
  String.ofList ('"' :: s.toList.flatMap quotedChar ++ ['"'])

end CheckIn.Text

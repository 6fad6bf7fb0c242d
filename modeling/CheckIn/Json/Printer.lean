import CheckIn.Json.Basic
import CheckIn.Text.Numeral

/-! Writing JSON, on one line or with each item on a line of its own. -/

namespace CheckIn.Json

def escapeChar (c : Char) : List Char :=
  match c with
  | '"' => ['\\', '"']
  | '\\' => ['\\', '\\']
  | '\x08' => ['\\', 'b']
  | '\x0c' => ['\\', 'f']
  | '\n' => ['\\', 'n']
  | '\r' => ['\\', 'r']
  | '\t' => ['\\', 't']
  | c =>
    if c.toNat < 0x20 then
      let digits := Nat.toDigits 16 c.toNat
      '\\' :: 'u' :: List.replicate (4 - digits.length) '0' ++ digits
    else [c]

def printString (s : String) : String :=
  String.ofList ('"' :: s.toList.flatMap escapeChar ++ ['"'])

def Numeral.print (n : Numeral) : String :=
  let digits := fun (ds : List Nat) => String.ofList (ds.map Nat.digitChar)
  (if n.negative then "-" else "") ++ digits n.whole ++
    (if n.fraction.isEmpty then "" else "." ++ digits n.fraction) ++
    match n.exponent with
    | none => ""
    | some (down, ds) => (if down then "e-" else "e") ++ digits ds

mutual

/-- A value on one line. -/
def print : Json → String
  | null => "null"
  | bool value => if value then "true" else "false"
  | number n => n.print
  | string s => printString (s.getD "")
  | array items => "[" ++ ",".intercalate (printItems items) ++ "]"
  | object members => "\x7b" ++ ",".intercalate (printMembers members) ++ "\x7d"

def printItems : List Json → List String
  | [] => []
  | item :: items => item.print :: printItems items

def printMembers : List (Option String × Json) → List String
  | [] => []
  | (key, value) :: members =>
    (printString (key.getD "") ++ ":" ++ value.print) :: printMembers members

end

/-- Puts each part on a line of its own, two blanks further in than `indent`. -/
def block (left right indent : String) : List String → String
  | [] => left ++ right
  | parts =>
    left ++ "\n" ++ ",\n".intercalate (parts.map (indent ++ "  " ++ ·)) ++ "\n" ++ indent ++ right

mutual

/-- A value on several lines, the first of which is already indented. -/
def layOut (indent : String) : Json → String
  | array items => block "[" "]" indent (layOutItems (indent ++ "  ") items)
  | object members => block "\x7b" "\x7d" indent (layOutMembers (indent ++ "  ") members)
  | null => "null"
  | bool value => if value then "true" else "false"
  | number n => n.print
  | string s => printString (s.getD "")

def layOutItems (indent : String) : List Json → List String
  | [] => []
  | item :: items => item.layOut indent :: layOutItems indent items

def layOutMembers (indent : String) : List (Option String × Json) → List String
  | [] => []
  | (key, value) :: members =>
    (printString (key.getD "") ++ ": " ++ value.layOut indent) :: layOutMembers indent members

end

end CheckIn.Json

import CheckIn.Json.Basic
import CheckIn.Text.Numeral

/-! Reading JSON from bytes. Readers take the bytes to read and give back what they read and the
bytes left, or nothing if the text is malformed. -/

namespace CheckIn.Json

def isSpace (b : UInt8) : Bool := b == 0x20 || b == 0x09 || b == 0x0A || b == 0x0D

def skipSpace (bytes : List UInt8) : List UInt8 := bytes.dropWhile isSpace

def isDigit (b : UInt8) : Bool := 0x30 ≤ b && b ≤ 0x39

/-- Reads decimal digits. -/
def readDigits (bytes : List UInt8) : List Nat × List UInt8 :=
  ((bytes.takeWhile isDigit).map fun b => b.toNat - 0x30, bytes.dropWhile isDigit)

/-- Reads the digits before the point; a zero stands alone. -/
def readWhole (bytes : List UInt8) : Option (List Nat × List UInt8) :=
  match readDigits bytes with
  | ([], _) => none
  | (0 :: _ :: _, _) => none
  | read => some read

def readFraction : List UInt8 → Option (List Nat × List UInt8)
  | 0x2E :: rest => some (readDigits rest) |>.filter (!·.1.isEmpty)
  | rest => some ([], rest)

def readExponent : List UInt8 → Option (Option (Bool × List Nat) × List UInt8)
  | e :: rest =>
    if e = 0x65 ∨ e = 0x45 then
      let (down, rest) := match rest with
        | 0x2D :: rest => (true, rest)
        | 0x2B :: rest => (false, rest)
        | rest => (false, rest)
      match readDigits rest with
      | ([], _) => none
      | (digits, rest) => some (some (down, digits), rest)
    else some (none, e :: rest)
  | [] => some (none, [])

def readNumeral (bytes : List UInt8) : Option (Numeral × List UInt8) := do
  let negative := bytes.head? == some 0x2D
  let (whole, rest) ← readWhole (if negative then bytes.tail else bytes)
  let (fraction, rest) ← readFraction rest
  let (exponent, rest) ← readExponent rest
  pure (⟨negative, whole, fraction, exponent⟩, rest)

/-- The character that a short escape stands for. -/
def shortEscape (b : UInt8) : Option UInt8 :=
  match Char.ofNat b.toNat with
  | '"' | '\\' | '/' => some b
  | 'b' => some 0x08
  | 'f' => some 0x0C
  | 'n' => some 0x0A
  | 'r' => some 0x0D
  | 't' => some 0x09
  | _ => none

/-- Reads a string after its opening quote. -/
def readUnits : List UInt8 → Option (List StringUnit × List UInt8)
  | [] => none
  | 0x22 :: rest => some ([], rest)
  | 0x5C :: 0x75 :: a :: b :: c :: d :: rest => do
    let unit ← Text.digits? 16 ([a, b, c, d].map fun b => Char.ofNat b.toNat)
    let (units, rest) ← readUnits rest
    pure (.escaped unit :: units, rest)
  | 0x5C :: e :: rest => do
    let b ← shortEscape e
    let (units, rest) ← readUnits rest
    pure (.byte b :: units, rest)
  | b :: rest =>
    if b < 0x20 ∨ b = 0x5C then none
    else (readUnits rest).map fun (units, rest) => (.byte b :: units, rest)

def readString (bytes : List UInt8) : Option (Option String × List UInt8) :=
  (readUnits bytes).map fun (units, rest) =>
    ((bytesOfUnits units).bind Text.Utf8.decode?, rest)

/-- Reads a word if it is what comes next. -/
def readWord (word : String) (value : Json) (bytes : List UInt8) : Option (Json × List UInt8) :=
  let word := Text.Utf8.encode word
  if word.isPrefixOf bytes then some (value, bytes.drop word.length) else none

mutual

/-- Reads a value and the blanks before it. -/
def readValue : Nat → List UInt8 → Option (Json × List UInt8)
  | 0, _ => none
  | fuel + 1, bytes =>
    match skipSpace bytes with
    | [] => none
    | 0x22 :: rest => (readString rest).map fun (s, rest) => (.string s, rest)
    | 0x5B :: rest =>
      match skipSpace rest with
      | 0x5D :: rest => some (.array [], rest)
      | rest => (readArray fuel rest).map fun (items, rest) => (.array items, rest)
    | 0x7B :: rest =>
      match skipSpace rest with
      | 0x7D :: rest => some (.object [], rest)
      | rest => (readObject fuel rest).map fun (members, rest) => (.object members, rest)
    | 0x6E :: rest => readWord "null" .null (0x6E :: rest)
    | 0x74 :: rest => readWord "true" (.bool true) (0x74 :: rest)
    | 0x66 :: rest => readWord "false" (.bool false) (0x66 :: rest)
    | rest => (readNumeral rest).map fun (n, rest) => (.number n, rest)

/-- Reads one or more items and the bracket after them. -/
def readArray : Nat → List UInt8 → Option (List Json × List UInt8)
  | 0, _ => none
  | fuel + 1, bytes => do
    let (item, rest) ← readValue fuel bytes
    match skipSpace rest with
    | 0x2C :: rest => (readArray fuel rest).map fun (items, rest) => (item :: items, rest)
    | 0x5D :: rest => pure ([item], rest)
    | _ => none

/-- Reads one or more members and the brace after them. -/
def readObject : Nat → List UInt8 → Option (List (Option String × Json) × List UInt8)
  | 0, _ => none
  | fuel + 1, bytes =>
    match skipSpace bytes with
    | 0x22 :: rest => do
      let (key, rest) ← readString rest
      match skipSpace rest with
      | 0x3A :: rest =>
        let (value, rest) ← readValue fuel rest
        match skipSpace rest with
        | 0x2C :: rest =>
          (readObject fuel rest).map fun (members, rest) => ((key, value) :: members, rest)
        | 0x7D :: rest => pure ([(key, value)], rest)
        | _ => none
      | _ => none
    | _ => none

end

/-- The value that the bytes write, blanks around it apart. -/
def read (bytes : List UInt8) : Option Json :=
  match readValue (bytes.length + 1) bytes with
  | some (value, rest) => if (skipSpace rest).isEmpty then some value else none
  | none => none

end CheckIn.Json

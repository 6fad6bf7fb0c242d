import CheckIn.Data
import CheckIn.Text.Numeral

/-! The values of TOML that are written without quotes: truth values, integers, floats and dates. A
date is checked and then counts as a record without fields. -/

namespace CheckIn.Toml

/-- The digits of a numeral in which single underscores may stand between digits. -/
def plainDigits? (cs : List Char) : Option (List Char) :=
  let rec follow : List Char → Option (List Char)
    | [] => some []
    | '_' :: c :: rest => if c = '_' then none else (follow rest).map (c :: ·)
    | ['_'] => none
    | c :: rest => (follow rest).map (c :: ·)
  match cs with
  | [] | '_' :: _ => none
  | c :: rest => (follow rest).map (c :: ·)

/-- The value of digits with underscores. -/
def separated? (base : Nat) (cs : List Char) : Option Nat :=
  (plainDigits? cs).bind (Text.digits? base)

/-- Takes a sign off: whether it is a minus, and what follows. -/
def splitSign : List Char → Bool × List Char
  | '-' :: cs => (true, cs)
  | '+' :: cs => (false, cs)
  | cs => (false, cs)

/-- Whether digits have a zero before other digits. -/
def hasLeadingZero : List Char → Bool
  | '0' :: _ :: _ => true
  | _ => false

/-- An integer, which has to fit into 128 bits with or without a sign. -/
def integer? (cs : List Char) : Option Int := do
  let n ← match cs with
    | '0' :: 'x' :: digits => (separated? 16 digits).map Int.ofNat
    | '0' :: 'o' :: digits => (separated? 8 digits).map Int.ofNat
    | '0' :: 'b' :: digits => (separated? 2 digits).map Int.ofNat
    | cs =>
      let (negative, digits) := splitSign cs
      if hasLeadingZero digits then none
      else (separated? 10 digits).map fun n => if negative then -Int.ofNat n else n
  let limit : Int := Nat.pow 2 127
  guard (-limit ≤ n ∧ n < 2 * limit)
  pure n

/-- The float `m · 10 ^ e`; nothing if it is too large. -/
def scaledFloat? (m : Nat) (e : Int) : Option Float :=
  let digits := Int.ofNat (Nat.toDigits 10 m).length
  if m = 0 then some 0
  else if digits + e > 310 then none
  else if digits + e < -400 then some 0
  else
    let x := Float.ofScientific m (e < 0) e.natAbs
    if x.isInf then none else some x

/-- A float with a fraction, an exponent or both. -/
def float? (cs : List Char) : Option Float := do
  let (negative, cs) := splitSign cs
  let sign := fun (x : Float) => if negative then -x else x
  match cs with
  | ['i', 'n', 'f'] => pure (sign (1 / 0))
  | ['n', 'a', 'n'] => pure (sign (0 / 0))
  | cs =>
    let isExponent := fun c : Char => c == 'e' || c == 'E'
    guard (cs.any fun c => isExponent c || c == '.')
    let significand := cs.takeWhile (!isExponent ·)
    let exponent : Int ← match cs.dropWhile (!isExponent ·) with
      | [] => pure 0
      | _ :: rest =>
        let (down, digits) := splitSign rest
        (separated? 10 digits).map fun n => if down then -Int.ofNat n else n
    let whole ← plainDigits? (significand.takeWhile (· ≠ '.'))
    let fraction ← match significand.dropWhile (· ≠ '.') with
      | [] => pure []
      | _ :: digits => plainDigits? digits
    guard (!hasLeadingZero whole)
    let m ← Text.digits? 10 (whole ++ fraction)
    pure (sign (← scaledFloat? m (exponent - fraction.length)))

/-- The value of exactly `width` digits at the start, and what follows them. -/
def readFixed (width : Nat) (cs : List Char) : Option (Nat × List Char) := do
  guard ((cs.take width).length = width ∧ (cs.take width).all Char.isDigit)
  pure (← Text.digits? 10 (cs.take width), cs.drop width)

/-- Reads a character. -/
def readChar (c : Char) : List Char → Option (List Char)
  | d :: rest => if c = d then some rest else none
  | [] => none

def isLeapYear (year : Nat) : Bool :=
  year % 4 == 0 && (year % 100 != 0 || year % 400 == 0)

def daysOfMonth (year month : Nat) : Nat :=
  match month with
  | 2 => if isLeapYear year then 29 else 28
  | 4 | 6 | 9 | 11 => 30
  | _ => 31

/-- Reads a date such as `1979-05-27`. -/
def readDate (cs : List Char) : Option (List Char) := do
  let (year, cs) ← readFixed 4 cs
  let (month, cs) ← readFixed 2 (← readChar '-' cs)
  let (day, cs) ← readFixed 2 (← readChar '-' cs)
  guard (1 ≤ month ∧ month ≤ 12 ∧ 1 ≤ day ∧ day ≤ daysOfMonth year month)
  pure cs

/-- Reads a time of day such as `07:32`, `07:32:00` or `07:32:00.5`. -/
def readTime (cs : List Char) : Option (List Char) := do
  let (hour, cs) ← readFixed 2 cs
  let (minute, cs) ← readFixed 2 (← readChar ':' cs)
  guard (hour ≤ 23 ∧ minute ≤ 59)
  match cs with
  | ':' :: cs =>
    let (second, cs) ← readFixed 2 cs
    guard (second ≤ 60)
    match cs with
    | '.' :: cs =>
      guard (cs.head?.any Char.isDigit)
      pure (cs.dropWhile Char.isDigit)
    | cs => pure cs
  | cs => pure cs

/-- Reads what a time lies off universal time, if it is given. -/
def readOffset : List Char → Option (List Char)
  | [] => some []
  | c :: cs =>
    if c = 'Z' ∨ c = 'z' then some cs
    else if c = '+' ∨ c = '-' then do
      let (hour, cs) ← readFixed 2 cs
      let (minute, cs) ← readFixed 2 (← readChar ':' cs)
      guard (hour ≤ 23 ∧ minute ≤ 59)
      pure cs
    else none

/-- Whether the text is a date, a time, or both with an optional offset. -/
def isDateTime (cs : List Char) : Bool :=
  match readDate cs with
  | some [] => true
  | some (c :: rest) =>
    (c == 'T' || c == 't' || c == ' ') && ((readTime rest).bind readOffset) == some []
  | none => readTime cs == some []

/-- The value that an unquoted word writes. -/
def scalar? (word : List Char) : Option Data :=
  match String.ofList word with
  | "true" => some (.bool true)
  | "false" => some (.bool false)
  | _ =>
    if isDateTime word then some (.table [])
    else match integer? word with
      | some n => some (.integer n)
      | none => (float? word).map .float

end CheckIn.Toml

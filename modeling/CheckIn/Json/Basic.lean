import CheckIn.Text.Utf8

/-! JSON values. The leaves are kept as they are written, so that a reader which passes over a leaf
does not care what it says: a numeral may be out of range and a string may be no text. -/

namespace CheckIn.Json

/-- A numeral as written. -/
structure Numeral where
  negative : Bool
  whole : List Nat
  fraction : List Nat
  exponent : Option (Bool × List Nat)

/-- What a numeral stands for. -/
inductive Number where
  | nat (n : UInt64)
  | negative (n : Int64)
  | float (x : Float)

namespace Numeral

/-- Adds digits to a number for as long as it stays below `limit`: the number, how many digits it
took, and those left. -/
def accumulate (limit n : Nat) : List Nat → Nat × Nat × List Nat
  | [] => (n, 0, [])
  | d :: ds =>
    if 10 * n + d < limit then
      let (m, taken, left) := accumulate limit (10 * n + d) ds
      (m, taken + 1, left)
    else (n, 0, d :: ds)

/-- A significand times a power of ten, in steps of at most `10 ^ 308`; nothing if it is too
large. -/
def scaled (significand : UInt64) (exponent : Int) : Option Float :=
  let rec descend : Nat → Float → Nat → Float
    | 0, x, _ => x
    | fuel + 1, x, e =>
      if e ≤ 308 then x / Float.ofScientific 1 false e
      else if x == 0 then x
      else descend fuel (x / Float.ofScientific 1 false 308) (e - 308)
  let x := significand.toFloat
  if exponent < 0 then some (descend 5000 x exponent.natAbs)
  else if exponent ≤ 308 then
    let y := x * Float.ofScientific 1 false exponent.toNat
    if y.isInf then none else some y
  else if x == 0 then some x
  else none

/-- The float of a numeral: its first digits up to 64 bits, times a power of ten. -/
def toFloat? (n : Numeral) : Option Float := do
  let limit := UInt64.size
  let (significand, _, cut) := accumulate limit 0 n.whole
  let (significand, places, _) :=
    if cut.isEmpty then accumulate limit significand n.fraction
    else match n.fraction with
      | [] => (significand, 0, [])
      | fraction => accumulate limit significand fraction
  let shift := Int.ofNat cut.length - places
  let magnitude ← match n.exponent with
    | none => scaled significand.toUInt64 shift
    | some (down, digits) =>
      match accumulate (Nat.pow 2 31) 0 digits with
      | (e, _, []) => scaled significand.toUInt64 (if down then shift - e else shift + e)
      | _ => if significand ≠ 0 ∧ !down then none else some 0
  pure (if n.negative then -magnitude else magnitude)

/-- An integer of 64 bits if the numeral is written as one, else a float. A zero with a sign is a
float. -/
def value? (n : Numeral) : Option Number :=
  match n.fraction, n.exponent, accumulate UInt64.size 0 n.whole with
  | [], none, (m, _, []) =>
    if !n.negative then some (.nat m.toUInt64)
    else if m ≠ 0 ∧ m ≤ Nat.pow 2 63 then some (.negative (Int64.ofInt (-m)))
    else some (.float (-m.toFloat))
  | _, _, _ => n.toFloat?.map .float

def ofInt (n : Int) : Numeral :=
  ⟨n < 0, (Nat.toDigits 10 n.natAbs).map fun c => c.toNat - '0'.toNat, [], none⟩

end Numeral

/-- One unit of a string: a byte as it stands, or a 16-bit unit that an escape gives. -/
inductive StringUnit where
  | byte (b : UInt8)
  | escaped (unit : Nat)

/-- The bytes of a string; nothing if half of a surrogate pair stands alone. -/
def bytesOfUnits : List StringUnit → Option (List UInt8)
  | [] => some []
  | .byte b :: rest => (bytesOfUnits rest).map (b :: ·)
  | .escaped high :: .escaped low :: rest =>
    if 0xD800 ≤ high ∧ high < 0xDC00 then
      if 0xDC00 ≤ low ∧ low < 0xE000 then
        let c := Char.ofNat (0x10000 + (high - 0xD800) * 0x400 + (low - 0xDC00))
        (bytesOfUnits rest).map (Text.Utf8.encode (String.singleton c) ++ ·)
      else none
    else if 0xDC00 ≤ high ∧ high < 0xE000 then none
    else (bytesOfUnits (.escaped low :: rest)).map
      (Text.Utf8.encode (String.singleton (Char.ofNat high)) ++ ·)
  | .escaped unit :: rest =>
    if 0xD800 ≤ unit ∧ unit < 0xE000 then none
    else (bytesOfUnits rest).map (Text.Utf8.encode (String.singleton (Char.ofNat unit)) ++ ·)

end CheckIn.Json

namespace CheckIn

/-- A JSON value. A string that is no text has no value. The members of an object keep their order
and may repeat a key. -/
inductive Json where
  | null
  | bool (value : Bool)
  | number (numeral : Json.Numeral)
  | string (text : Option String)
  | array (items : List Json)
  | object (members : List (Option String × Json))

namespace Json

def ofInt (n : Int) : Json := .number (.ofInt n)

def ofString (s : String) : Json := .string (some s)

def ofMembers (members : List (String × Json)) : Json :=
  .object (members.map fun (key, value) => (some key, value))

end Json

end CheckIn

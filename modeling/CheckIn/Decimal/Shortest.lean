/-! The shortest decimal that reads back as a given floating-point number: of all decimals nearer to
it than to any other number of its width, one with the fewest digits, and of these the nearest. A
number is taken apart into `m · 2 ^ q` and compared with decimals in exact arithmetic. -/

namespace CheckIn.Decimal

/-- A decimal `digits · 10 ^ exponent`. -/
structure Digits where
  digits : Nat
  exponent : Int
  deriving DecidableEq

/-- The numbers that read back as `m · 2 ^ q`, over a common denominator: the number itself and the
ends of the interval of the reals nearest to it, which count as inside if `m` is even. -/
structure Interval where
  least : Nat
  value : Nat
  greatest : Nat
  denominator : Nat
  closed : Bool

namespace Interval

/-- The interval of `m · 2 ^ q`. Below a power of two the next number is only half as far. -/
def of (m : Nat) (q : Int) (power : Bool) : Interval :=
  let below := if power then 1 else 2
  let scale := if q < 2 then 1 else Nat.pow 2 (q - 2).toNat
  let denominator := if q < 2 then Nat.pow 2 (2 - q).toNat else 1
  ⟨(4 * m - below) * scale, 4 * m * scale, (4 * m + 2) * scale, denominator, m % 2 == 0⟩

/-- Whether the decimal `n · 10 ^ e` lies in the interval. -/
def contains (i : Interval) (n : Nat) (e : Int) : Bool :=
  let n := n * Nat.pow 10 e.toNat * i.denominator
  let unit := Nat.pow 10 (-e).toNat
  let least := i.least * unit
  let greatest := i.greatest * unit
  if i.closed then least ≤ n && n ≤ greatest else least < n && n < greatest

/-- The multiples of `10 ^ e` on both sides of the value, and whether the lower one is nearer. -/
def neighbours (i : Interval) (e : Int) : Nat × Nat × Bool :=
  let value := i.value * Nat.pow 10 (-e).toNat
  let unit := i.denominator * Nat.pow 10 e.toNat
  (value / unit, value / unit + 1, 2 * (value % unit) < unit)

/-- The decimal with digits down to `10 ^ e`, if one of the two next to the value is inside. -/
def onGrid (i : Interval) (e : Int) : Option Digits :=
  let (below, above, nearer) := i.neighbours e
  match i.contains below e, i.contains above e with
  | true, true => some ⟨if nearer then below else above, e⟩
  | true, false => some ⟨below, e⟩
  | false, true => some ⟨above, e⟩
  | false, false => none

/-- The first of the grids `10 ^ e`, `10 ^ (e - 1)`, … that holds a decimal of the interval. -/
def coarsest (i : Interval) : Nat → Int → Digits
  | 0, e => (i.onGrid e).getD ⟨0, e⟩
  | fuel + 1, e => (i.onGrid e).getD (i.coarsest fuel (e - 1))

end Interval

/-- The coarsest decimal of the interval. No number of 64 bits or less needs digits below
`10 ^ (-342)`. -/
def Interval.shortest (i : Interval) : Digits :=
  i.coarsest 400 (Nat.toDigits 10 (i.value / i.denominator)).length

/-- A floating-point number. -/
inductive Shape where
  | nan
  | infinite (negative : Bool)
  | finite (negative : Bool) (digits : Digits)

/-- Takes a number apart that has the given widths of fraction and exponent. -/
def Shape.ofBits (fractionBits exponentBits bits : Nat) : Shape :=
  let negative := bits ≥ Nat.pow 2 (fractionBits + exponentBits)
  let exponent : Nat := bits / Nat.pow 2 fractionBits % Nat.pow 2 exponentBits
  let fraction : Nat := bits % Nat.pow 2 fractionBits
  let least : Int := 2 - Nat.pow 2 (exponentBits - 1) - fractionBits
  if exponent = Nat.pow 2 exponentBits - 1 then if fraction = 0 then .infinite negative else .nan
  else if exponent = 0 ∧ fraction = 0 then .finite negative ⟨0, 0⟩
  else
    let interval := if exponent = 0 then Interval.of fraction least false
      else Interval.of (fraction + Nat.pow 2 fractionBits) (least + exponent - 1)
        (fraction == 0 && exponent > 1)
    .finite negative interval.shortest

def Shape.of32 (x : Float32) : Shape := .ofBits 23 8 x.toBits.toNat

def Shape.of64 (x : Float) : Shape := .ofBits 52 11 x.toBits.toNat

/-- Digits with the point at its place. -/
def Digits.positional (d : Digits) : String :=
  let digits := Nat.toDigits 10 d.digits
  if d.digits = 0 then "0"
  else if d.exponent ≥ 0 then String.ofList (digits ++ List.replicate d.exponent.toNat '0')
  else
    let places := (-d.exponent).toNat
    let digits := List.replicate (places + 1 - digits.length) '0' ++ digits
    let whole := digits.length - places
    String.ofList (digits.take whole ++ '.' :: digits.drop whole)

/-- Digits with one of them before the point, and the power of ten. -/
def Digits.scientific (d : Digits) : String :=
  let digits := Nat.toDigits 10 d.digits
  let exponent := d.exponent + (digits.length - 1)
  match digits with
  | [digit] => s!"{digit}e{exponent}"
  | digits => s!"{String.ofList (digits.take 1)}.{String.ofList (digits.drop 1)}e{exponent}"

/-- A number in decimal, never with a power of ten. -/
def Shape.positional : Shape → String
  | nan => "NaN"
  | infinite negative => if negative then "-inf" else "inf"
  | finite negative d => (if negative then "-" else "") ++ d.positional

/-- A number in decimal with a point at least, and with a power of ten if it is less than
`10 ^ (-4)` or at least `10 ^ 16`. -/
def Shape.pointed : Shape → String
  | nan => "NaN"
  | infinite negative => if negative then "-inf" else "inf"
  | finite negative d =>
    let magnitude := d.exponent + (Nat.toDigits 10 d.digits).length
    let text :=
      if d.digits ≠ 0 ∧ (magnitude < -3 ∨ magnitude > 16) then d.scientific
      else if d.exponent ≥ 0 then d.positional ++ ".0"
      else d.positional
    (if negative then "-" else "") ++ text

def shortest (x : Float32) : String := (Shape.of32 x).positional

end CheckIn.Decimal

import CheckIn.Text.Parts

/-! Sets of code points written as text: `41-5A 61` is the set of `41` to `5A` and `61`, in
hexadecimal and in ascending order. The character tables are kept in this form and searched by
bisection. -/

namespace CheckIn.Unicode

/-- Disjoint ranges of code points in ascending order, ends included. -/
abbrev Ranges := Array (Nat × Nat)

/-- The value of a hexadecimal digit; any other character counts as zero. -/
def hexDigit (c : Char) : Nat :=
  if '0' ≤ c ∧ c ≤ '9' then c.toNat - '0'.toNat
  else if 'A' ≤ c ∧ c ≤ 'F' then c.toNat - 'A'.toNat + 10
  else if 'a' ≤ c ∧ c ≤ 'f' then c.toNat - 'a'.toNat + 10
  else 0

/-- The number that hexadecimal digits denote. -/
def hexNumber (digits : List Char) : Nat :=
  digits.foldl (fun n c => n * 16 + hexDigit c) 0

/-- The words of a text, between blanks and line ends. -/
def words (text : String) : List (List Char) :=
  (Text.splitOn (fun c => c == ' ' || c == '\n') text.toList).filter (!·.isEmpty)

/-- One range, `41-5A` or `61`. -/
def rangeOfText (word : List Char) : Nat × Nat :=
  let first := hexNumber (word.takeWhile (· ≠ '-'))
  match word.dropWhile (· ≠ '-') with
  | [] => (first, first)
  | _ :: last => (first, hexNumber last)

/-- Reads ranges. -/
def Ranges.ofText (text : String) : Ranges :=
  ((words text).map rangeOfText).toArray

/-- The number of entries of a sorted array, from index `low` and below `high`, whose key is at most
`n`, counted by bisection and added to `low`. -/
def countUpTo {α : Type} (key : α → Nat) (entries : Array α) (n : Nat) : Nat → Nat → Nat → Nat
  | 0, low, _ => low
  | fuel + 1, low, high =>
    if low < high then
      let middle := (low + high) / 2
      match entries[middle]? with
      | some entry =>
        if key entry ≤ n then countUpTo key entries n fuel (middle + 1) high
        else countUpTo key entries n fuel low middle
      | none => low
    else low

/-- The last entry of a sorted array whose key is at most `n`. -/
def lastUpTo? {α : Type} (key : α → Nat) (entries : Array α) (n : Nat) : Option α :=
  match countUpTo key entries n (entries.size + 1) 0 entries.size with
  | 0 => none
  | count + 1 => entries[count]?

/-- Whether a code point is in one of the ranges. -/
def Ranges.contains (ranges : Ranges) (n : Nat) : Bool :=
  match lastUpTo? Prod.fst ranges n with
  | some (_, last) => n ≤ last
  | none => false

end CheckIn.Unicode

import CheckIn.Pattern.Library

/-! The library that runs work with. It estimates the room that a compiled pattern takes, and it
brings along no tables. Nothing is proved of the estimate: runs use patterns as they are given. -/

namespace CheckIn.Pattern

/-- What the ranges of a set need as sequences of bytes. -/
def CharSet.weight : CharSet → Nat
  | none => 32
  | range first last => if first = last then 32 * first.utf8Size else 48 * last.utf8Size
  | named .digit => 3000
  | named (.categories _) | named (.property _) | named (.script _ _) => 8000
  | named .word => 48000
  | named _ => 400
  | negate s => s.weight + 400
  | anyCase s => 2 * s.weight
  | anyAsciiCase s => s.weight
  | union s t | inter s t | diff s t | symmDiff s t => s.weight + t.weight

/-- Whether a pattern may match more than the empty text. -/
def consumes : Pattern → Bool
  | empty | look _ => false
  | set _ => true
  | seq p q | either p q => consumes p || consumes q
  | .repeat p _ most => consumes p && most != some 0

/-- How much room a pattern takes. A repetition is compiled to copies of its body. -/
def weight : Pattern → Nat
  | empty | look _ => 32
  | set s => s.weight
  | seq p q => weight p + weight q
  | either p q => weight p + weight q + 4
  | .repeat p least most =>
    let copies := if consumes p then max least (most.getD (least + 1)) else 1
    copies * (weight p + 32)

instance estimate : Library where
  fits _ p := weight p ≤ sizeLimit
  valued _ _ := none

end CheckIn.Pattern

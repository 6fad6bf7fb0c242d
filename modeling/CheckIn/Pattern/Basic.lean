import CheckIn.Pattern.CharSet

/-! Patterns and what they match. `Spans p text i j` says that `p` matches the characters of `text`
from position `i` up to position `j`; `advance` computes, from the positions at which a match may
begin, all those at which it may end. -/

namespace CheckIn.Pattern

/-- An assertion about the characters on both sides of a position. -/
inductive Look where
  | textStart
  | textEnd
  | lineStart
  | lineEnd
  | lineStartCrlf
  | lineEndCrlf
  | wordBoundary (isWord : ClassName)
  | notWordBoundary (isWord : ClassName)
  | wordStart (isWord : ClassName)
  | wordEnd (isWord : ClassName)
  | wordStartHalf (isWord : ClassName)
  | wordEndHalf (isWord : ClassName)

namespace Look

/-- Whether the assertion holds between the characters `before` and `after`; an end of the text has
no character. -/
def holds (look : Look) (before after : Option Char) : Bool :=
  let word := fun (name : ClassName) (c : Option Char) => c.any name.holds
  match look with
  | textStart => before.isNone
  | textEnd => after.isNone
  | lineStart => before.isNone || before == some '\n'
  | lineEnd => after.isNone || after == some '\n'
  | lineStartCrlf =>
    before.isNone || before == some '\n' || (before == some '\r' && after != some '\n')
  | lineEndCrlf =>
    after.isNone || after == some '\r' || (after == some '\n' && before != some '\r')
  | wordBoundary name => word name before != word name after
  | notWordBoundary name => word name before == word name after
  | wordStart name => !word name before && word name after
  | wordEnd name => word name before && !word name after
  | wordStartHalf name => !word name before
  | wordEndHalf name => !word name after

end Look

end Pattern

/-- A pattern. -/
inductive Pattern where
  | empty
  | set (set : Pattern.CharSet)
  | look (look : Pattern.Look)
  | seq (first second : Pattern)
  | either (left right : Pattern)
  | repeat (body : Pattern) (least : Nat) (most : Option Nat)

namespace Pattern

/-- The characters on both sides of position `i` of a text satisfy the assertion. -/
def Look.At (look : Look) (text : List Char) (i : Nat) : Prop :=
  look.holds (if i = 0 then none else text[i - 1]?) text[i]? = true

mutual

/-- The pattern matches the characters of `text` from position `i` up to position `j`. -/
inductive Spans : Pattern → List Char → Nat → Nat → Prop where
  | empty {text i} : i ≤ text.length → Spans .empty text i i
  | set {s text i c} : text[i]? = some c → s.contains c = true → Spans (.set s) text i (i + 1)
  | look {l text i} : i ≤ text.length → Look.At l text i → Spans (.look l) text i i
  | seq {p q text i j k} : Spans p text i j → Spans q text j k → Spans (.seq p q) text i k
  | left {p q text i j} : Spans p text i j → Spans (.either p q) text i j
  | right {p q text i j} : Spans q text i j → Spans (.either p q) text i j
  | repeat {p least most text n i j} : SpansTimes p n text i j → least ≤ n →
      (∀ m, most = some m → n ≤ m) → Spans (.repeat p least most) text i j

/-- The pattern matches `n` times in a row from position `i` up to position `j`. -/
inductive SpansTimes : Pattern → Nat → List Char → Nat → Nat → Prop where
  | zero {p text i} : i ≤ text.length → SpansTimes p 0 text i i
  | succ {p n text i j k} : SpansTimes p n text i j → Spans p text j k →
      SpansTimes p (n + 1) text i k

end

/-- A set of positions of a text: one mark for each position, its end included. -/
abbrev Marks := List Bool

namespace Marks

def union (a b : Marks) : Marks := List.zipWith (· || ·) a b

/-- Keeps the marks at which an assertion holds; `before` is the character before the first. -/
def atLook (look : Look) : Option Char → List Char → Marks → Marks
  | before, c :: text, m :: marks =>
    (m && look.holds before (some c)) :: atLook look (some c) text marks
  | before, [], m :: _ => [m && look.holds before none]
  | _, _, [] => []

/-- Moves the marks past one character of a set. -/
def past (set : CharSet) (text : List Char) (marks : Marks) : Marks :=
  false :: List.zipWith (fun m c => m && set.contains c) marks text

/-- Applies a step a given number of times, and stops when it changes nothing. -/
def iterate (step : Marks → Marks) : Nat → Marks → Marks
  | 0, marks => marks
  | n + 1, marks =>
    let next := step marks
    if next == marks then marks else iterate step n next

/-- Adds what up to a given number of steps reach, and stops when a step adds nothing. -/
def spread (step : Marks → Marks) : Nat → Marks → Marks
  | 0, marks => marks
  | n + 1, marks =>
    let wider := marks.union (step marks)
    if wider == marks then marks else spread step n wider

end Marks

/-- The positions at which a match may end, given those at which it may begin. An unbounded
repetition needs no more rounds than there are positions. -/
def advance (text : List Char) : Pattern → Marks → Marks
  | empty, marks => marks
  | set s, marks => marks.past s text
  | look l, marks => marks.atLook l none text
  | seq p q, marks => advance text q (advance text p marks)
  | either p q, marks => (advance text p marks).union (advance text q marks)
  | .repeat p least most, marks =>
    let rounds := match most with
      | some m => m - least
      | none => text.length + 1
    Marks.spread (advance text p) rounds (Marks.iterate (advance text p) least marks)

/-- Whether some stretch of the text matches. -/
def isMatch (p : Pattern) (text : List Char) : Bool :=
  (advance text p (List.replicate (text.length + 1) true)).contains true

end Pattern

end CheckIn

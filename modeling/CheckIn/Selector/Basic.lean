import CheckIn.Pattern.Estimate
import CheckIn.Pattern.Reader
import CheckIn.Screen.Element

/-! Selectors: conditions that tell which element of the screen a step speaks of. -/

namespace CheckIn

/-- The text of a pattern that `source` stands in when it is matched against a description: it
begins at the start and ends at the end. -/
def Pattern.anchored (source : String) : List Char :=
  "^(?:".toList ++ source.toList ++ ")$".toList

variable [Pattern.Library]

/-- A pattern of descriptions, kept with its source. -/
structure DescPattern where
  source : String
  pattern : Pattern
  reads : Pattern.read (Pattern.anchored source) = .ok pattern

namespace DescPattern

theorem ext {p q : DescPattern} (h : p.source = q.source) : p = q := by
  obtain ⟨source, pattern, reads⟩ := p
  obtain ⟨_, other, reads'⟩ := q
  cases h
  obtain rfl : pattern = other := Except.ok.inj (reads.symm.trans reads')
  rfl

/-- Patterns are equal if their sources are. -/
instance : DecidableEq DescPattern := fun p q =>
  if h : p.source = q.source then isTrue (ext h) else isFalse fun e => h (e ▸ rfl)

def ofSource (source : String) : Except Pattern.ReadError DescPattern :=
  match h : Pattern.read (Pattern.anchored source) with
  | .ok pattern => .ok ⟨source, pattern, h⟩
  | .error e => .error e

def isMatch (p : DescPattern) (desc : String) : Bool := p.pattern.isMatch desc.toList

end DescPattern

/-- A condition on one property of an element. -/
inductive Atom where
  | text (value : String)
  | description (value : String)
  | pattern (pattern : DescPattern)
  | id (value : String)
  deriving DecidableEq

namespace Atom

def holds : Atom → Screen.Element → Bool
  | text value, e => e.text == value
  | description value, e => e.desc == value
  | pattern p, e => p.isMatch e.desc
  | id value, e => e.id == value || e.shortId == value

/-- A text that is seen where the atom holds, for recognition to look for. -/
def literalText : Atom → Option String
  | text value | description value => some value
  | pattern _ | id _ => none

end Atom

/-- A condition on an element: a single atom, or all of several together with what the element's
`clickable` is, if that matters. -/
inductive Selector where
  | one (atom : Atom)
  | all (parts : List Atom) (clickable : Option Bool)
  deriving DecidableEq

namespace Selector

def holds : Selector → Screen.Element → Bool
  | one atom, e => atom.holds e
  | all parts clickable, e => parts.all (·.holds e) && clickable.all (e.clickable == ·)

/-- The atoms of a selector, in their order. -/
def atoms : Selector → List Atom
  | one atom => [atom]
  | all parts _ => parts

/-- The first text among the atoms. -/
def literalText : Selector → Option String
  | one atom => atom.literalText
  | all parts _ => parts.findSome? Atom.literalText

/-- A pattern source that matches `text` and nothing else. -/
def escapePattern (text : List Char) : List Char :=
  text.flatMap fun c => if Pattern.isMeta c then ['\\', c] else [c]

/-- Holds of elements whose description contains `needle`. -/
def descContains (needle : String) : Selector :=
  let source := "(?s).*" ++ String.ofList (escapePattern needle.toList) ++ ".*"
  match DescPattern.ofSource source with
  | .ok p => .one (.pattern p)
  | .error _ => .one (.description needle)

end Selector

end CheckIn

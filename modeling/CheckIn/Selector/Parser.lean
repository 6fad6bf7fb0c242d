import CheckIn.Selector.Basic
import CheckIn.Text.Blank

/-! Reading selectors. A selector is one or more terms joined by `&&`; a term is a quoted text, or a
name with an argument in parentheses, and blanks may stand between all of these. Readers take the
characters to read and give back what they read and the characters left. -/

namespace CheckIn

/-- Why a text is no selector. -/
inductive SelectorError where
  | empty
  | unknownTerm (text : String)
  | expectedLiteral (term : String)
  | invalidPattern (term reason : String)
  | invalidClickable (word : String)
  | bareClickable
  deriving DecidableEq

def SelectorError.message : SelectorError → String
  | empty => "empty selector"
  | unknownTerm text => s!"unrecognised selector term `{text}`"
  | expectedLiteral term => s!"selector term `{term}` expects a quoted literal"
  | invalidPattern term reason => s!"invalid regex in `{term}`: {reason}"
  | invalidClickable word => s!"`clickable(...)` only accepts true or false, got `{word}`"
  | bareClickable => "`clickable(...)` cannot be used on its own"

namespace Selector

open Text (skipBlanks)

variable [Pattern.Library]

/-- A term of a selector. -/
inductive Term where
  | atom (atom : Atom)
  | clickable (value : Bool)

/-- Reads a literal after its opening quote. A backslash stands for the character after it. -/
def readQuoted : List Char → Option (List Char × List Char)
  | '"' :: rest => some ([], rest)
  | '\\' :: c :: rest => (readQuoted rest).map fun (value, rest) => (c :: value, rest)
  | '\\' :: [] => none
  | c :: rest => (readQuoted rest).map fun (value, rest) => (c :: value, rest)
  | [] => none

/-- Reads a quoted literal, which the term `name` needs. -/
def readLiteral (name : String) : List Char → Except SelectorError (String × List Char)
  | '"' :: rest =>
    match readQuoted rest with
    | some (value, rest) => .ok (String.ofList value, rest)
    | none => .error (.expectedLiteral ("unterminated literal \"" ++ String.ofList rest))
  | _ => .error (.expectedLiteral name)

/-- Reads a pattern source after its opening slash. It ends at the first slash that a closing
parenthesis follows. -/
def readSource : List Char → Option (List Char × List Char)
  | [] => none
  | c :: rest =>
    if c = '/' ∧ (skipBlanks rest).head? = some ')' then some ([], rest)
    else (readSource rest).map fun (source, rest) => (c :: source, rest)

/-- Reads a pattern of descriptions after its opening slash. -/
def readPattern (cs : List Char) : Except SelectorError (DescPattern × List Char) :=
  match readSource cs with
  | none => .error (.invalidPattern s!"desc(/{String.ofList cs})" "missing closing `/`")
  | some (source, rest) =>
    match DescPattern.ofSource (String.ofList source) with
    | .ok p => .ok (p, rest)
    | .error e => .error (.invalidPattern s!"desc(/{String.ofList source}/)" e.message)

/-- Reads a truth value. -/
def readClickable (cs : List Char) : Except SelectorError (Bool × List Char) :=
  match String.ofList (Text.stripWhile Text.isBlank (cs.takeWhile (· ≠ ')'))) with
  | "true" => .ok (true, cs.dropWhile (· ≠ ')'))
  | "false" => .ok (false, cs.dropWhile (· ≠ ')'))
  | word => .error (.invalidClickable word)

def isNameChar (c : Char) : Bool := c.isAlphanum || c == '_'

/-- Reads the argument of the term `name`, up to its closing parenthesis. -/
def readArgument (name : String) (cs : List Char) : Except SelectorError (Term × List Char) :=
  match name, cs with
  | "text", cs => do
    let (value, rest) ← readLiteral name cs
    pure (.atom (.text value), rest)
  | "id", cs => do
    let (value, rest) ← readLiteral name cs
    pure (.atom (.id value), rest)
  | "desc", '/' :: cs => do
    let (p, rest) ← readPattern cs
    pure (.atom (.pattern p), rest)
  | "desc", cs => do
    let (value, rest) ← readLiteral name cs
    pure (.atom (.description value), rest)
  | "clickable", cs => do
    let (value, rest) ← readClickable cs
    pure (.clickable value, rest)
  | name, _ => .error (.unknownTerm name)

/-- Reads one term and the blanks before it. -/
def readTerm (cs : List Char) : Except SelectorError (Term × List Char) :=
  match skipBlanks cs with
  | '"' :: rest => do
    let (value, rest) ← readLiteral "" ('"' :: rest)
    pure (.atom (.text value), rest)
  | cs =>
    let name := cs.takeWhile isNameChar
    match name, skipBlanks (cs.dropWhile isNameChar) with
    | _ :: _, '(' :: rest => do
      let (term, rest) ← readArgument (String.ofList name) (skipBlanks rest)
      match skipBlanks rest with
      | ')' :: rest => pure (term, rest)
      | _ => throw (.unknownTerm s!"{String.ofList name}(…")
    | _, rest => .error (.unknownTerm (String.ofList (name ++ rest)))

/-- Reads terms joined by `&&` to the end of the text. -/
def readTerms : Nat → List Char → Except SelectorError (List Term)
  | 0, _ => .error .empty
  | fuel + 1, cs => do
    let (term, rest) ← readTerm cs
    match skipBlanks rest with
    | [] => pure [term]
    | '&' :: '&' :: rest => pure (term :: (← readTerms fuel rest))
    | rest => throw (.unknownTerm (String.ofList rest))

def Term.atom? : Term → Option Atom
  | atom a => some a
  | clickable _ => none

def Term.clickable? : Term → Option Bool
  | atom _ => none
  | clickable value => some value

/-- The selector of a list of terms. Of several conditions on `clickable` the last counts. -/
def ofTerms (terms : List Term) : Except SelectorError Selector :=
  match terms.filterMap Term.atom?, terms.reverse.findSome? Term.clickable? with
  | [], _ => .error .bareClickable
  | [atom], none => .ok (.one atom)
  | atoms, clickable => .ok (.all atoms clickable)

/-- The selector that a text writes. -/
def parse (input : String) : Except SelectorError Selector :=
  match skipBlanks input.toList with
  | [] => .error .empty
  | cs => do ofTerms (← readTerms (cs.length + 1) cs)

end Selector

end CheckIn

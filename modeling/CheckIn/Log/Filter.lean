import CheckIn.Log.Event
import CheckIn.Text.Numeral
import CheckIn.Text.Parts
import CheckIn.Unicode.Class

/-! Which events the log shows. A filter is a list of directives; each says up to which level it
shows the events of a target and of the targets under it, and of the directives that concern an
event the most specific decides. -/

namespace CheckIn.Log

/-- Shows events up to a rank, where zero shows none. Without a target it concerns all. -/
structure Directive where
  target : Option String
  /-- The fields that an event must have. -/
  fields : List String
  limit : Nat

namespace Directive

/-- Whether an event has the target or one under it, and the fields. -/
def concerns (d : Directive) (e : Event) : Bool :=
  d.target.all (fun target => target.toList.isPrefixOf e.target.toList) &&
    d.fields.all fun field => field == "message" || e.fields.any (·.1 == field)

/-- Whether a directive is as specific as another: by the length of its target, and then by its
fields. -/
def isAsSpecific (d d' : Directive) : Bool :=
  let length := fun (d : Directive) => (d.target.map (·.utf8ByteSize + 1)).getD 0
  length d' < length d || length d' == length d && d'.fields.length ≤ d.fields.length

end Directive

/-- The directives in the order in which they were given; of equals the last counts. -/
structure Filter where
  directives : List Directive

namespace Filter

def shows (f : Filter) (e : Event) : Bool :=
  let choose := fun (best : Option Directive) (d : Directive) =>
    if best.all d.isAsSpecific then some d else best
  match (f.directives.filter (·.concerns e)).foldl choose none with
  | some d => e.level.rank ≤ d.limit
  | none => false

def upTo (level : Level) : Filter := ⟨[⟨none, [], level.rank⟩]⟩

/-- The names and numbers of the limits. -/
def limits : List (String × Nat) :=
  [("off", 0), ("error", 1), ("warn", 2), ("info", 3), ("debug", 4), ("trace", 5)]

/-- The limit that a text names, in any case, or gives as a number. -/
def limit? (text : String) : Option Nat :=
  match Text.nat? 10 text.toList with
  | some n => if n ≤ 5 then some n else none
  | none => limits.lookup (text.map Char.toLower)

/-- What stands after the names: nothing, which shows all, or a limit. A directive with blanks
around it cannot have one. -/
def limitAfter? ( isPadded : Bool) : List Char → Option Nat
  | [] => some 5
  | '=' :: rest =>
    if isPadded then none
    else if rest.isEmpty then some 5
    else limit? (String.ofList rest)
  | _ => none

/-- The rest of a directive from a field on. Whether an event has the field can be told, but not
whether the field has a value. -/
def fieldOf? ( isPadded : Bool) (target : Option String) ( isSpan : Bool) (rest : List Char) :
    Option (Option Directive) := do
  let (field, rest) ← Text.splitAtFirst ['}', ']'] rest
  let limit ← limitAfter? isPadded rest
  if field.isEmpty || field.contains '}' then none
  else if isSpan || field.contains '=' then some none
  else some (some ⟨target, [String.ofList field], limit⟩)

/-- The rest of a directive from a bracket on: a span, to which no event belongs, or a field. -/
def bracketOf? ( isPadded : Bool) (target : Option String) (rest : List Char) :
    Option (Option Directive) :=
  let span := rest.takeWhile fun c => c != ']' && c != '{'
  match rest.drop span.length with
  | ']' :: rest => (limitAfter? isPadded rest).map fun _ => none
  | '{' :: rest => fieldOf? isPadded target (!span.isEmpty) rest
  | _ => none

/-- Reads a directive, without the blanks around it. One that concerns no events leaves nothing. -/
def directive? ( isPadded : Bool) (cs : List Char) : Option (Option Directive) := do
  let c ← cs.head?
  if c == '[' then bracketOf? isPadded none (cs.drop 1)
  else if c == '-' || c == ':' || c == '_' || Unicode.isAlphanumeric c then
    let name := cs.takeWhile fun c => c != '=' && c != '['
    let text := String.ofList name
    match cs.drop name.length with
    | [] =>
      if isPadded then some none
      else match limit? text with
        | some limit => some (some ⟨none, [], limit⟩)
        | none => some (some ⟨some text, [], 5⟩)
    | '[' :: rest => bracketOf? isPadded (some text) rest
    | rest => (limitAfter? isPadded rest).map fun limit => some ⟨some text, [], limit⟩
  else none

/-- Reads a directive. Blanks before it belong to its names, and so no event bears them. -/
def ofPart? (part : List Char) : Option (Option Directive) :=
  let cs := Text.stripWhile Text.isBlank part
  let isIndented := part.head?.any Text.isBlank
  (directive? (cs.length < part.length) cs).map fun d => if isIndented then none else d

/-- Reads directives between commas. No directives at all show errors. -/
def ofText? (text : String) : Option Filter := do
  let parts := (Text.splitOn (· == ',') (Text.trim text).toList).filter (!·.isEmpty)
  if parts.isEmpty then pure (upTo .error)
  else pure ⟨(← parts.mapM ofPart?).filterMap id⟩

/-- The filter for a level that the user has chosen, or else for a text. -/
def choose (level : Option Level) (text : Option String) : Filter :=
  match level with
  | some level => upTo level
  | none => (text.bind ofText?).getD (upTo .info)

end Filter

end CheckIn.Log

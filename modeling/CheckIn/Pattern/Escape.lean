import CheckIn.Pattern.Library

/-! Flags and escapes of the pattern language. Readers take the characters to read and give back
what they read and the characters left, or nothing if the text is malformed. -/

namespace CheckIn.Pattern

/-- The flags in force: `i`, `m`, `s`, `u`, `x` and `R` of a flag group, and `U`, which asks for
the shortest match and so does not change whether there is one. -/
structure Flags where
  ignoreCase : Bool
  multiLine : Bool
  dotNewline : Bool
  unicode : Bool
  extended : Bool
  crlf : Bool

namespace Flags

/-- The flags at the start of a pattern. -/
def initial : Flags := ⟨false, false, false, true, false, false⟩

/-- Turns one flag on or off; nothing if the letter names none. -/
def assign (flags : Flags) (letter : Char) (value : Bool) : Option Flags :=
  match letter with
  | 'i' => some { flags with ignoreCase := value }
  | 'm' => some { flags with multiLine := value }
  | 's' => some { flags with dotNewline := value }
  | 'u' => some { flags with unicode := value }
  | 'x' => some { flags with extended := value }
  | 'R' => some { flags with crlf := value }
  | 'U' => some flags
  | _ => none

end Flags

/-- How a run of flag letters ended. -/
inductive FlagsEnd where
  | colon
  | parenthesis
  deriving DecidableEq

/-- Reads flag letters up to `:` or `)`. No letter and no `-` may come twice, and a letter follows
the `-`. `seen` are the characters read so far, the last one first. -/
def readFlags : Flags → List Char → List Char → Option (Flags × FlagsEnd × List Char × List Char)
  | flags, seen, c :: rest =>
    if c = ':' ∨ c = ')' then
      if seen.head? = some '-' then none
      else some (flags, if c = ':' then .colon else .parenthesis, seen, rest)
    else if seen.contains c then none
    else if c = '-' then readFlags flags (c :: seen) rest
    else match flags.assign c (!seen.contains '-') with
      | some flags => readFlags flags (c :: seen) rest
      | none => none
  | _, _, [] => none

/-- Drops blanks, and comments from `#` to the end of the line. -/
def skipComments : (inComment : Bool) → List Char → List Char
  | _, [] => []
  | true, c :: rest => skipComments (c != '\n') rest
  | false, c :: rest =>
    if Text.isBlank c then skipComments false rest
    else if c = '#' then skipComments true rest
    else c :: rest

/-- In extended mode blanks and comments between the parts of a pattern do not count. -/
def Flags.skip (flags : Flags) (cs : List Char) : List Char :=
  if flags.extended then skipComments false cs else cs

/-- The characters with a meaning of their own in patterns. -/
def isMeta (c : Char) : Bool := "\\.+*?()|[]\x7b\x7d^$#&-~".toList.contains c

/-- What one escape stands for. -/
inductive Escaped where
  | char (c : Char)
  | byte (c : Char)
  | set (s : CharSet)
  | look (l : Look)

/-- The class of word characters under the flags. -/
def Flags.wordClass (flags : Flags) : ClassName :=
  if flags.unicode then .word else .asciiWord

/-- The set of `\d`, `\s` and `\w`, or of its complement for a capital letter. Without Unicode the
complements would hold parts of characters and are malformed. -/
def perlClass (flags : Flags) (letter : Char) : Option CharSet :=
  let positive : ClassName := match letter.toLower, flags.unicode with
    | 'd', true => .digit
    | 'd', false => .asciiDigit
    | 's', true => .blank
    | 's', false => .asciiBlank
    | _, true => .word
    | _, false => .asciiWord
  if letter.isLower then some (.named positive)
  else if flags.unicode then some (.negate (.named positive))
  else none

def isHex (c : Char) : Bool := c.isDigit || ('a' ≤ c && c ≤ 'f') || ('A' ≤ c && c ≤ 'F')

/-- The character with a code point in hexadecimal, if there is one. -/
def charOfHex (digits : List Char) : Option Char :=
  let n := Unicode.hexNumber digits
  if n.isValidChar then some (Char.ofNat n) else none

/-- Reads exactly `count` hexadecimal digits. -/
def readHexDigits (flags : Flags) : Nat → List Char → Option (List Char × List Char)
  | 0, cs => some ([], cs)
  | count + 1, c :: cs =>
    if isHex c then
      (readHexDigits flags count (flags.skip cs)).map fun (digits, rest) => (c :: digits, rest)
    else none
  | _ + 1, [] => none

/-- Reads hexadecimal digits up to a closing brace. -/
def readHexBraced (flags : Flags) : Nat → List Char → Option (List Char × List Char)
  | fuel + 1, c :: cs =>
    if c = '}' then some ([], flags.skip cs)
    else if isHex c then
      (readHexBraced flags fuel (flags.skip cs)).map fun (digits, rest) => (c :: digits, rest)
    else none
  | _, _ => none

/-- Reads what follows `\x`, `\u` or `\U`: 2, 4 or 8 digits, or any number of them in braces. -/
def readHex (flags : Flags) (letter : Char) (cs : List Char) : Option (Escaped × List Char) :=
  let width := if letter = 'x' then 2 else if letter = 'u' then 4 else 8
  match flags.skip cs with
  | '{' :: rest => do
    let (digits, rest) ← readHexBraced flags (rest.length + 1) (flags.skip rest)
    guard (digits ≠ [])
    let c ← charOfHex digits
    pure (.char c, rest)
  | cs => do
    let (digits, rest) ← readHexDigits flags width cs
    let c ← charOfHex digits
    pure (if width = 2 then .byte c else .char c, rest)

/-- A property name in its normal form: without case, blanks, hyphens and underscores, and without
the prefix `is`. -/
def normalName (name : List Char) : String :=
  let strip := fun (cs : List Char) => cs.filter fun c =>
    !(c == ' ' || c == '_' || c == '-') && c.toNat < 0x80
  let lower := fun (cs : List Char) => cs.map Char.toLower
  let hasIs := match name with
    | a :: b :: _ => a.toLower == 'i' && b.toLower == 's'
    | _ => false
  let short := lower (strip (if hasIs then name.drop 2 else name))
  if hasIs && short == ['c'] then "isc" else String.ofList short

/-- The general categories under one name: a single one, a group or an alias. -/
def categoriesNamed (name : String) : Option ClassName :=
  let group := fun (p : Unicode.Category → Bool) =>
    ClassName.categories ((Unicode.Category.names.map (·.1)).filter p)
  match name with
  | "any" => some .any
  | "assigned" => some .assigned
  | "ascii" => some .ascii
  | "l" | "letter" => some (group (·.isLetter))
  | "lc" | "casedletter" => some (.categories [.lu, .ll, .lt])
  | "m" | "mark" | "combiningmark" => some (group (·.isMark))
  | "n" | "number" => some (group (·.isNumber))
  | "p" | "punctuation" | "punct" => some (.categories [.pc, .pd, .ps, .pe, .pi, .pf, .po])
  | "s" | "symbol" => some (.categories [.sm, .sc, .sk, .so])
  | "z" | "separator" => some (.categories [.zs, .zl, .zp])
  | "c" | "other" => some (.categories [.cc, .cf, .co, .cn])
  | "digit" => some (.categories [.nd])
  | "cntrl" => some (.categories [.cc])
  | "cs" | "surrogate" => none
  | name => (Unicode.Category.names.find? fun (_, short, long) => name == short || name == long).map
      fun (category, _) => .categories [category]

def propertyNamed (name : String) : Option ClassName :=
  (Unicode.Property.all.find? (·.names.contains name)).map .property

def scriptNamed (scope : ScriptScope) (name : String) : Option ClassName :=
  (Unicode.scripts.find? (·.names.contains name)).map (.script · scope)

/-- The names that other properties, which are no classes of their own, take from categories and
scripts. -/
def otherPropertyNames : List String :=
  ["age", "bc", "blk", "ccc", "dm", "dt", "ea", "gc", "gcb", "hst", "insc", "inpc", "isc", "jg",
   "jsn", "jt", "lb", "na", "nt", "nv", "sb", "scx", "slc", "stc", "suc", "tc", "uc", "vo", "wb"]

/-- The class of a single property name. `cf`, `sc` and `lc` name categories here. -/
def classNamed (name : String) : Option ClassName :=
  if name == "cf" || name == "sc" || name == "lc" then categoriesNamed name
  else if otherPropertyNames.contains name then none
  else (propertyNamed name).or ((categoriesNamed name).or (scriptNamed .alone name))

section Library

variable [Library]

/-- The class of a property name with a value. -/
def classValued (name value : String) : Option ClassName :=
  match name with
  | "gc" | "generalcategory" => categoriesNamed value
  | "sc" | "script" => scriptNamed .alone value
  | "scx" | "scriptextensions" => scriptNamed .extended value
  | "age" | "gcb" | "graphemeclusterbreak" | "sb" | "sentencebreak" | "wb" | "wordbreak" =>
    (Library.valued name value).map .other
  | _ => none

/-- Splits a property expression at its operator: `!=`, else the first `:`, else the first `=`. -/
def splitProperty (body : List Char) : List Char × Option (Bool × List Char) :=
  let rec atNotEqual : List Char → Option (List Char × List Char)
    | '!' :: '=' :: rest => some ([], rest)
    | c :: rest => (atNotEqual rest).map fun (name, value) => (c :: name, value)
    | [] => none
  match atNotEqual body with
  | some (name, value) => (name, some (true, value))
  | none =>
    let separator := if body.contains ':' then ':' else '='
    match body.dropWhile (· ≠ separator) with
    | _ :: value => (body.takeWhile (· ≠ separator), some (false, value))
    | [] => (body, none)

/-- Reads the characters up to a closing brace. -/
def readBraced (flags : Flags) : Nat → List Char → Option (List Char × List Char)
  | fuel + 1, c :: cs =>
    if c = '}' then some ([], cs)
    else (readBraced flags fuel (flags.skip cs)).map fun (body, rest) => (c :: body, rest)
  | _, _ => none

/-- Reads what follows `\p` or `\P`: one letter, or a property expression in braces. -/
def readProperty (flags : Flags) (negated : Bool) (cs : List Char) :
    Option (Escaped × List Char) := do
  guard flags.unicode
  let finish := fun (name : Option ClassName) (flip : Bool) (rest : List Char) => do
    let name ← name
    let set : CharSet := .named name
    let set := if flags.ignoreCase then .anyCase set else set
    pure (Escaped.set (if negated != flip then .negate set else set), rest)
  match flags.skip cs with
  | '{' :: rest =>
    let (body, rest) ← readBraced flags (rest.length + 1) (flags.skip rest)
    match splitProperty body with
    | (name, none) => finish (classNamed (normalName name)) false rest
    | (name, some (flip, value)) =>
      finish (classValued (normalName name) (normalName value)) flip rest
  | c :: rest =>
    guard (c ≠ '\\')
    finish (classNamed (normalName [c])) false (flags.skip rest)
  | [] => none

/-- Reads the braces of `\b{start}` and its like. Braces that begin with no letter or hyphen are a
repetition and are left unread. -/
def readBoundary (flags : Flags) (cs : List Char) : Option (Option Look × List Char) :=
  let isName := fun c : Char => c.isAlpha || c == '-'
  let rec letters : Nat → List Char → List Char × List Char
    | fuel + 1, c :: cs =>
      if isName c then
        let (name, rest) := letters fuel (flags.skip cs)
        (c :: name, rest)
      else ([], c :: cs)
    | _, cs => ([], cs)
  match cs with
  | '{' :: rest =>
    match flags.skip rest with
    | [] => none
    | inner =>
      match letters (inner.length + 1) inner with
      | ([], _) => some (none, cs)
      | (name, '}' :: rest) =>
        match String.ofList name with
        | "start" => some (some (.wordStart flags.wordClass), rest)
        | "end" => some (some (.wordEnd flags.wordClass), rest)
        | "start-half" => some (some (.wordStartHalf flags.wordClass), rest)
        | "end-half" => some (some (.wordEndHalf flags.wordClass), rest)
        | _ => none
      | _ => none
  | _ => some (none, cs)

/-- Reads what follows a backslash. -/
def readEscape (flags : Flags) : List Char → Option (Escaped × List Char)
  | [] => none
  | c :: rest =>
    if c.isDigit then none
    else if c = 'x' ∨ c = 'u' ∨ c = 'U' then readHex flags c rest
    else if c = 'p' ∨ c = 'P' then readProperty flags (c == 'P') rest
    else if "dswDSW".toList.contains c then
      (perlClass flags c).map fun set => (.set set, rest)
    else match c with
      | 'a' => some (.char '\x07', rest)
      | 'f' => some (.char '\x0c', rest)
      | 't' => some (.char '\t', rest)
      | 'n' => some (.char '\n', rest)
      | 'r' => some (.char '\r', rest)
      | 'v' => some (.char '\x0b', rest)
      | 'A' => some (.look .textStart, rest)
      | 'z' => some (.look .textEnd, rest)
      | 'b' => (readBoundary flags rest).map fun (found, rest) =>
          (.look (found.getD (.wordBoundary flags.wordClass)), rest)
      | 'B' => some (.look (.notWordBoundary flags.wordClass), rest)
      | '<' => some (.look (.wordStart flags.wordClass), rest)
      | '>' => some (.look (.wordEnd flags.wordClass), rest)
      | c =>
        if isMeta c || (c.toNat < 0x80 && !c.isAlphanum) then some (.char c, rest) else none

end Library

end CheckIn.Pattern

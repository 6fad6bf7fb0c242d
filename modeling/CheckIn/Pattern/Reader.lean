import CheckIn.Pattern.Bracket

/-! The text form of patterns. `Pattern.read` reads a whole text, so what a text means may depend on
all that stands around it: an unmatched parenthesis closes a group that was opened before. -/

namespace CheckIn.Pattern

/-- Why a text is no pattern. -/
inductive ReadError where
  | malformed
  | tooLarge
  deriving DecidableEq

/-- The greatest nesting depth of a pattern. -/
def heightLimit : Nat := 250

def ReadError.message : ReadError → String
  | malformed => "regex parse error: malformed pattern"
  | tooLarge => s!"Compiled regex exceeds size limit of {sizeLimit} bytes."

/-- A part of a pattern that has been read: what it matches and how deeply it is nested. The flags
of a flag group count as a part that cannot be repeated. -/
structure Part where
  pattern : Pattern
  height : Nat
  repeatable : Bool

namespace Part

def ofSet (s : CharSet) (height : Nat) : Part := ⟨.set s, height, true⟩

def ofLook (l : Look) : Part := ⟨.look l, 0, true⟩

/-- The place of a flag group. -/
def flagged : Part := ⟨.empty, 0, false⟩

/-- The parts, given last first, one after another. -/
def concat : List Part → Part
  | [part] => part
  | parts =>
    ⟨parts.foldl (fun later part => .seq part.pattern later) .empty,
      if parts.isEmpty then 0 else parts.foldl (fun height part => max height part.height) 0 + 1,
      true⟩

/-- The alternatives, given last first. -/
def alternatives : List Part → Part
  | [] => ⟨.empty, 0, true⟩
  | [part] => part
  | last :: parts =>
    ⟨parts.foldl (fun later part => .either part.pattern later) last.pattern,
      parts.foldl (fun height part => max height part.height) last.height + 1, true⟩

/-- A group. -/
def group (part : Part) : Part := ⟨part.pattern, part.height + 1, true⟩

/-- A repetition, if the part can be repeated. -/
def repeated (least : Nat) (most : Option Nat) (part : Part) : Option Part :=
  if !part.repeatable then none
  else some ⟨.repeat part.pattern least most, part.height + 1, true⟩

end Part

/-- An open group: the flags to go back to at its end, and what stands before it, last first. -/
structure Level where
  flags : Flags
  branches : List Part
  parts : List Part

/-- How far reading has come: the flags, the finished alternatives of the innermost group and the
parts of the present one, last first; the groups that are open; and the group names in use. -/
structure Progress where
  flags : Flags
  branches : List Part
  parts : List Part
  outer : List Level
  names : List (List Char)

namespace Progress

def initial : Progress := ⟨.initial, [], [], [], []⟩

def push (s : Progress) (part : Part) : Progress := { s with parts := part :: s.parts }

/-- Goes on with the next alternative. -/
def branch (s : Progress) : Progress :=
  { s with branches := .concat s.parts :: s.branches, parts := [] }

def openGroup (s : Progress) (flags : Flags) : Progress :=
  { s with flags, branches := [], parts := [],
           outer := ⟨s.flags, s.branches, s.parts⟩ :: s.outer }

/-- What the innermost group holds. -/
def contents (s : Progress) : Part := .alternatives (.concat s.parts :: s.branches)

def closeGroup (s : Progress) : Option Progress :=
  match s.outer with
  | [] => none
  | level :: outer =>
    some { s with flags := level.flags, branches := level.branches,
                  parts := .group s.contents :: level.parts, outer }

def repeatLast (s : Progress) (least : Nat) (most : Option Nat) : Option Progress :=
  match s.parts with
  | [] => none
  | part :: parts => (part.repeated least most).map fun part => { s with parts := part :: parts }

end Progress

def isNameStart (c : Char) : Bool := c == '_' || Unicode.Property.alphabetic.holds c

def isNamePart (c : Char) : Bool :=
  c == '_' || c == '.' || c == '[' || c == ']' || Unicode.isAlphanumeric c

/-- Reads a group name up to `>`. -/
def readGroupName (cs : List Char) : Option (List Char × List Char) :=
  match cs.takeWhile (· ≠ '>'), cs.dropWhile (· ≠ '>') with
  | c :: name, _ :: rest =>
    if isNameStart c && name.all isNamePart then some (c :: name, rest) else none
  | _, _ => none

/-- Reads what follows an opening parenthesis: the start of a group or a whole flag group. -/
def readGroup (s : Progress) (cs : List Char) : Option (Progress × List Char) :=
  let named := fun (cs : List Char) => do
    let (name, rest) ← readGroupName cs
    guard (!s.names.contains name)
    pure ({ s.openGroup s.flags with names := name :: s.names }, rest)
  match s.flags.skip cs with
  | '?' :: '=' :: _ | '?' :: '!' :: _ | '?' :: '<' :: '=' :: _ | '?' :: '<' :: '!' :: _ => none
  | '?' :: 'P' :: '<' :: rest => named rest
  | '?' :: '<' :: rest => named rest
  | '?' :: rest => do
    let (flags, ending, seen, rest) ← readFlags s.flags [] rest
    match ending with
    | .colon => pure (s.openGroup flags, rest)
    | .parenthesis =>
      guard (seen ≠ [])
      pure ({ s.push .flagged with flags }, rest)
  | rest => some (s.openGroup s.flags, rest)

/-- Reads decimal digits. -/
def readDigits (flags : Flags) : Nat → List Char → List Char × List Char
  | fuel + 1, c :: cs =>
    if c.isDigit then
      let (digits, rest) := readDigits flags fuel (flags.skip cs)
      (c :: digits, rest)
    else ([], c :: cs)
  | _, cs => ([], cs)

/-- Drops blanks, and after each of them what extended mode drops. -/
def skipLoose (flags : Flags) : Nat → List Char → List Char
  | fuel + 1, c :: cs => if Text.isBlank c then skipLoose flags fuel (flags.skip cs) else c :: cs
  | _, cs => cs

/-- Reads a count of a repetition, with the blanks around it, which may stand there in any mode.
The outer result is missing if the number is too large, the inner if there is none. -/
def readCount (flags : Flags) (cs : List Char) : Option (Option Nat × List Char) :=
  let cs := Text.skipBlanks cs
  let (digits, rest) := readDigits flags cs.length cs
  let rest := skipLoose flags rest.length rest
  if digits.isEmpty then some (none, rest)
  else
    let n := digits.foldl (fun n c => 10 * n + (c.toNat - 48)) 0
    if n < UInt32.size then some (some n, rest) else none

/-- Drops the mark that asks for the shortest match. -/
def skipLazy : List Char → List Char
  | '?' :: rest => rest
  | rest => rest

/-- Reads what follows an opening brace outside of brackets: a repetition. -/
def readCounted (s : Progress) (cs : List Char) : Option (Progress × List Char) := do
  let (least, rest) ← readCount s.flags (s.flags.skip cs)
  let least ← least
  let (most, rest) ← match rest with
    | ',' :: rest =>
      match s.flags.skip rest with
      | '}' :: rest => pure (none, '}' :: rest)
      | rest => do
        let (most, rest) ← readCount s.flags rest
        let most ← most
        guard (least ≤ most)
        pure (some most, rest)
    | rest => pure (some least, rest)
  match rest with
  | '}' :: rest => pure (← s.repeatLast least most, skipLazy (s.flags.skip rest))
  | _ => none

/-- The characters that `.` stands for. -/
def Flags.dot (flags : Flags) : Option CharSet :=
  if !flags.unicode then none
  else if flags.dotNewline then some (.named .any)
  else if flags.crlf then some (.negate (.union (.char '\n') (.char '\r')))
  else some (.negate (.char '\n'))

/-- The assertions of `^` and `$`. -/
def Flags.startLook (flags : Flags) : Look :=
  if !flags.multiLine then .textStart
  else if flags.crlf then .lineStartCrlf
  else .lineStart

def Flags.endLook (flags : Flags) : Look :=
  if !flags.multiLine then .textEnd
  else if flags.crlf then .lineEndCrlf
  else .lineEnd

/-- A character that stands for itself. Without Unicode, case counts for all but ASCII. -/
def Flags.literal (flags : Flags) (c : Char) : CharSet :=
  if flags.unicode || c.toNat < 0x80 then flags.fold (.char c) else .char c

/-- The part that an escape stands for. Without Unicode a byte that is no character of ASCII is
malformed. -/
def Escaped.part (flags : Flags) : Escaped → Option Part
  | char c => some (.ofSet (flags.literal c) 0)
  | byte c =>
    if flags.unicode || c.toNat < 0x80 then some (.ofSet (flags.literal c) 0) else none
  | set s => some (.ofSet s 0)
  | look l => some (.ofLook l)

section Library

variable [Library]

/-- Reads one part, operator, or start or end of a group. -/
def readPart (s : Progress) : List Char → Option (Progress × List Char)
  | [] => none
  | c :: rest =>
    match c with
    | '(' => readGroup s rest
    | ')' => s.closeGroup.map (·, rest)
    | '|' => some (s.branch, rest)
    | '[' => (readBracket s.flags rest).map fun (read, rest) =>
        (s.push (.ofSet read.set read.height), rest)
    | '?' => (s.repeatLast 0 (some 1)).map (·, skipLazy rest)
    | '*' => (s.repeatLast 0 none).map (·, skipLazy rest)
    | '+' => (s.repeatLast 1 none).map (·, skipLazy rest)
    | '{' => readCounted s rest
    | '\\' => do
      let (escaped, rest) ← readEscape s.flags rest
      pure (s.push (← escaped.part s.flags), rest)
    | '.' => s.flags.dot.map fun set => (s.push (.ofSet set 0), rest)
    | '^' => some (s.push (.ofLook s.flags.startLook), rest)
    | '$' => some (s.push (.ofLook s.flags.endLook), rest)
    | c => some (s.push (.ofSet (s.flags.literal c) 0), rest)

/-- Reads to the end of the text. -/
def readAll : Nat → Progress → List Char → Option Progress
  | 0, _, _ => none
  | fuel + 1, s, cs =>
    match s.flags.skip cs with
    | [] => some s
    | cs => do
      let (s, rest) ← readPart s cs
      readAll fuel s rest

/-- The pattern that a text writes. -/
def read (source : List Char) : Except ReadError Pattern :=
  match readAll (source.length + 1) .initial source with
  | none => .error .malformed
  | some s =>
    if !s.outer.isEmpty || s.contents.height > heightLimit then .error .malformed
    else if !Library.fits source s.contents.pattern then .error .tooLarge
    else .ok s.contents.pattern

end Library

end CheckIn.Pattern

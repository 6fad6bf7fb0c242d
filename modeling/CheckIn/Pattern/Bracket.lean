import CheckIn.Pattern.Escape

/-! Bracket expressions of the pattern language: sets of characters with ranges, classes, nested
brackets and the set operators `&&`, `--` and `~~`, which all bind alike and group to the left. -/

namespace CheckIn.Pattern

/-- A set that has been read and how deeply its brackets are nested. -/
structure ReadSet where
  set : CharSet
  height : Nat

/-- An operator between two sets. -/
inductive SetOperator where
  | inter
  | diff
  | symmDiff

def SetOperator.apply : SetOperator → CharSet → CharSet → CharSet
  | inter, a, b => .inter a b
  | diff, a, b => .diff a b
  | symmDiff, a, b => .symmDiff a b

/-- Adds to a set, where case does not count, what differs from a member in case only. -/
def Flags.fold (flags : Flags) (set : CharSet) : CharSet :=
  if !flags.ignoreCase then set
  else if flags.unicode then .anyCase set
  else .anyAsciiCase set

/-- The complement of a set if asked for. Without Unicode it would hold parts of characters and is
malformed. -/
def Flags.negateIf (flags : Flags) (negated : Bool) (set : CharSet) : Option CharSet :=
  if !negated then some set
  else if flags.unicode then some (.negate set)
  else none

/-- A bracket being read: whether it is negated, the operands so far with the operator that waits
for its right side, and the items of the present operand, the last one first. -/
structure Bracket where
  negated : Bool
  left : Option (SetOperator × ReadSet)
  items : List ReadSet

namespace Bracket

def push (b : Bracket) (set : CharSet) (height : Nat) : Bracket :=
  { b with items := ⟨set, height⟩ :: b.items }

/-- The union of the items of the present operand. -/
def operand (b : Bracket) : ReadSet :=
  match b.items with
  | [] => ⟨.none, 0⟩
  | [item] => item
  | items => ⟨items.foldl (fun set item => .union item.set set) .none,
      items.foldl (fun height item => max height item.height) 0 + 1⟩

/-- The set of all operands read so far. -/
def total (flags : Flags) (b : Bracket) : ReadSet :=
  match b.left with
  | none => b.operand
  | some (op, left) =>
    ⟨op.apply (flags.fold left.set) (flags.fold b.operand.set),
      max left.height b.operand.height + 1⟩

/-- Goes on with the right side of an operator. -/
def operate (flags : Flags) (op : SetOperator) (b : Bracket) : Bracket :=
  ⟨b.negated, some (op, b.total flags), []⟩

/-- The set of the closed bracket. -/
def close (flags : Flags) (b : Bracket) : Option ReadSet :=
  let total := b.total flags
  (flags.negateIf b.negated (flags.fold total.set)).map (⟨·, total.height + 1⟩)

end Bracket

/-- The ranges of the ASCII classes. -/
def asciiClass : String → Option (List (Char × Char))
  | "alnum" => some [('0', '9'), ('A', 'Z'), ('a', 'z')]
  | "alpha" => some [('A', 'Z'), ('a', 'z')]
  | "ascii" => some [('\x00', '\x7f')]
  | "blank" => some [('\t', '\t'), (' ', ' ')]
  | "cntrl" => some [('\x00', '\x1f'), ('\x7f', '\x7f')]
  | "digit" => some [('0', '9')]
  | "graph" => some [('!', '~')]
  | "lower" => some [('a', 'z')]
  | "print" => some [(' ', '~')]
  | "punct" => some [('!', '/'), (':', '@'), ('[', '`'), ('\x7b', '~')]
  | "space" => some [('\t', '\r'), (' ', ' ')]
  | "upper" => some [('A', 'Z')]
  | "word" => some [('0', '9'), ('A', 'Z'), ('_', '_'), ('a', 'z')]
  | "xdigit" => some [('0', '9'), ('A', 'F'), ('a', 'f')]
  | _ => none

/-- Reads an ASCII class such as `:alpha:]` or `:^alpha:]`, if that is what follows a bracket:
whether it is negated, and its ranges. -/
def readAsciiClass : List Char → Option (Bool × List (Char × Char) × List Char)
  | ':' :: rest =>
    let negated := rest.head? == some '^'
    let rest := if negated then rest.tail else rest
    match rest.dropWhile (· ≠ ':') with
    | ':' :: ']' :: after =>
      (asciiClass (String.ofList (rest.takeWhile (· ≠ ':')))).map (negated, ·, after)
    | _ => none
  | _ => none

/-- Reads hyphens, which stand for themselves at the start of a bracket. -/
def readHyphens (flags : Flags) : Nat → Bracket → List Char → Bracket × List Char
  | fuel + 1, b, '-' :: cs => readHyphens flags fuel (b.push (.char '-') 0) (flags.skip cs)
  | _, b, cs => (b, cs)

/-- Reads what may follow an opening bracket only: `^`, hyphens, and a closing bracket that stands
for itself if nothing came before it. -/
def readOpening (flags : Flags) (cs : List Char) : Bracket × List Char :=
  let cs := flags.skip cs
  let negated := cs.head? == some '^'
  let cs := if negated then flags.skip cs.tail else cs
  match readHyphens flags cs.length ⟨negated, none, []⟩ cs with
  | (b, ']' :: rest) =>
    if b.items.isEmpty then (b.push (.char ']') 0, flags.skip rest) else (b, ']' :: rest)
  | opened => opened

/-- Reads one character or escape of a bracket. -/
def readMember [Library] (flags : Flags) : List Char → Option (Escaped × List Char)
  | [] => none
  | '\\' :: rest => readEscape flags rest
  | c :: rest => some (.char c, rest)

/-- The character of a member. Without Unicode it is one of ASCII. -/
def Escaped.memberChar? (flags : Flags) : Escaped → Option Char
  | char c | byte c => if flags.unicode || c.toNat < 0x80 then some c else none
  | _ => none

/-- The set of a member that is not an end of a range. -/
def Escaped.memberSet? (flags : Flags) : Escaped → Option CharSet
  | set s => some s
  | member => (member.memberChar? flags).map .char

/-- The character after a hyphen, which tells whether the hyphen makes a range. In extended mode
blanks are passed over, and one `#` among them. -/
def peek (flags : Flags) (cs : List Char) : Option Char :=
  if !flags.extended then cs.head?
  else match Text.skipBlanks cs with
    | '#' :: rest => (Text.skipBlanks rest).head?.or cs.head?
    | rest => rest.head?.or cs.head?

/-- Reads a single member or a range. -/
def readRange [Library] (flags : Flags) (cs : List Char) : Option (CharSet × List Char) := do
  let (first, rest) ← readMember flags cs
  match flags.skip rest with
  | '-' :: after =>
    if peek flags after == some ']' || peek flags after == some '-' then
      pure (← first.memberSet? flags, '-' :: after)
    else
      let (last, rest) ← readMember flags (flags.skip after)
      let first ← first.memberChar? flags
      let last ← last.memberChar? flags
      guard (first ≤ last)
      pure (.range first last, rest)
  | rest => pure (← first.memberSet? flags, rest)

/-- Reads the rest of a bracket, and of the brackets `outer` around it. -/
def readItems [Library] (flags : Flags) : Nat → Bracket → List Bracket → List Char →
    Option (ReadSet × List Char)
  | 0, _, _, _ => none
  | fuel + 1, b, outer, cs =>
    match flags.skip cs with
    | [] => none
    | '[' :: rest =>
      match readAsciiClass rest with
      | some (negated, ranges, rest) => do
        let set ← flags.negateIf negated (flags.fold (.ofRanges ranges))
        readItems flags fuel (b.push set 0) outer rest
      | none =>
        let (inner, rest) := readOpening flags rest
        readItems flags fuel inner (b :: outer) rest
    | ']' :: rest => do
      let read ← b.close flags
      match outer with
      | [] => pure (read, rest)
      | parent :: outer => readItems flags fuel (parent.push read.set read.height) outer rest
    | '&' :: '&' :: rest => readItems flags fuel (b.operate flags .inter) outer rest
    | '-' :: '-' :: rest => readItems flags fuel (b.operate flags .diff) outer rest
    | '~' :: '~' :: rest => readItems flags fuel (b.operate flags .symmDiff) outer rest
    | cs => do
      let (member, rest) ← readRange flags cs
      readItems flags fuel (b.push member 0) outer rest

/-- Reads what follows an opening bracket outside of brackets. -/
def readBracket [Library] (flags : Flags) (cs : List Char) : Option (ReadSet × List Char) :=
  let (b, rest) := readOpening flags cs
  readItems flags (cs.length + 1) b [] rest

end CheckIn.Pattern

import CheckIn.Text.Numeral

/-! The strings of TOML: with escapes between double quotes or as they stand between single quotes,
on one line or between three quotes on several. Readers begin after the opening quotes and give
back the string and the characters left, or nothing if the text is malformed. -/

namespace CheckIn.Toml

/-- Blanks within a line. -/
def isBlank (c : Char) : Bool := c == ' ' || c == '\t'

/-- Whether a character may stand in strings and comments as it is. -/
def isPlain (c : Char) : Bool := c == '\t' || (0x20 ≤ c.toNat && c.toNat ≠ 0x7F)

/-- Reads the number of a character, in exactly `width` hexadecimal digits. -/
def readCode (width : Nat) (cs : List Char) : Option (Char × List Char) := do
  guard ((cs.take width).length = width)
  let n ← Text.digits? 16 (cs.take width)
  guard n.isValidChar
  pure (Char.ofNat n, cs.drop width)

/-- Reads an escape after its backslash. -/
def readEscape : List Char → Option (Char × List Char)
  | [] => none
  | c :: rest =>
    match c with
    | 'b' => some ('\x08', rest)
    | 't' => some ('\t', rest)
    | 'n' => some ('\n', rest)
    | 'f' => some ('\x0c', rest)
    | 'r' => some ('\r', rest)
    | 'e' => some ('\x1b', rest)
    | '"' => some ('"', rest)
    | '\\' => some ('\\', rest)
    | 'x' => readCode 2 rest
    | 'u' => readCode 4 rest
    | 'U' => readCode 8 rest
    | _ => none

/-- Adds a character to what was read after it. -/
def prepend (c : Char) (read : Option (List Char × List Char)) : Option (List Char × List Char) :=
  read.map fun (text, rest) => (c :: text, rest)

/-- Reads a string up to a double quote. -/
def readBasic : Nat → List Char → Option (List Char × List Char)
  | fuel + 1, c :: rest =>
    if c = '"' then some ([], rest)
    else if c = '\\' then do
      let (c, rest) ← readEscape rest
      prepend c (readBasic fuel rest)
    else if isPlain c then prepend c (readBasic fuel rest)
    else none
  | _, _ => none

/-- Reads a string up to a single quote. -/
def readLiteral : List Char → Option (List Char × List Char)
  | [] => none
  | c :: rest =>
    if c = '\'' then some ([], rest)
    else if isPlain c then prepend c (readLiteral rest)
    else none

/-- Drops a line end. -/
def skipLineEnd : List Char → List Char
  | '\n' :: rest => rest
  | '\r' :: '\n' :: rest => rest
  | rest => rest

/-- Drops blanks and line ends, if a line end comes before anything but blanks. -/
def skipContinued (cs : List Char) : Option (List Char) :=
  match cs.dropWhile isBlank with
  | '\n' :: rest | '\r' :: '\n' :: rest =>
    some (rest.dropWhile fun c => isBlank c || c == '\n' || c == '\r')
  | _ => none

/-- The quotes at the start: of three or more the last three close the string, and up to two before
them belong to it. -/
def closing (quote : Char) (cs : List Char) : Nat × Bool × List Char :=
  let count := min (cs.takeWhile (· = quote)).length 5
  if count < 3 then (count, false, cs.drop count) else (count - 3, true, cs.drop count)

/-- Reads a string up to three double quotes. A backslash at the end of a line joins it with the
next text. -/
def readBasicLines : Nat → List Char → Option (List Char × List Char)
  | fuel + 1, c :: rest =>
    if c = '"' then
      match closing '"' (c :: rest) with
      | (count, true, rest) => some (List.replicate count '"', rest)
      | (count, false, rest) =>
        (readBasicLines fuel rest).map fun (text, rest) => (List.replicate count '"' ++ text, rest)
    else if c = '\\' then
      match skipContinued rest with
      | some rest => readBasicLines fuel rest
      | none => do
        let (c, rest) ← readEscape rest
        prepend c (readBasicLines fuel rest)
    else if isPlain c || c == '\n' || (c == '\r' && rest.head? == some '\n') then
      prepend c (readBasicLines fuel rest)
    else none
  | _, _ => none

/-- Reads a string up to three single quotes. -/
def readLiteralLines : Nat → List Char → Option (List Char × List Char)
  | fuel + 1, c :: rest =>
    if c = '\'' then
      match closing '\'' (c :: rest) with
      | (count, true, rest) => some (List.replicate count '\'', rest)
      | (count, false, rest) =>
        (readLiteralLines fuel rest).map fun (text, rest) =>
          (List.replicate count '\'' ++ text, rest)
    else if isPlain c || c == '\n' || (c == '\r' && rest.head? == some '\n') then
      prepend c (readLiteralLines fuel rest)
    else none
  | _, _ => none

/-- Reads a string with its opening quotes, if there is one. -/
def readQuoted? (cs : List Char) : Option (Option (String × List Char)) :=
  let finish := fun (read : Option (List Char × List Char)) =>
    read.map fun (text, rest) => (String.ofList text, rest)
  match cs with
  | '"' :: '"' :: '"' :: rest =>
    some (finish (readBasicLines (rest.length + 1) (skipLineEnd rest)))
  | '\'' :: '\'' :: '\'' :: rest =>
    some (finish (readLiteralLines (rest.length + 1) (skipLineEnd rest)))
  | '"' :: rest => some (finish (readBasic (rest.length + 1) rest))
  | '\'' :: rest => some (finish (readLiteral rest))
  | _ => none

end CheckIn.Toml

import CheckIn.TaskFile.Reader
import CheckIn.Toml.Document
import CheckIn.Toml.Quoted
import CheckIn.Toml.Scalar

/-! Reading TOML, version 1.1. Readers take the characters to read and give back what they read and
the characters left, or nothing if the text is malformed. -/

namespace CheckIn.Toml

/-- How deeply arrays and inline tables may be nested. -/
def depthLimit : Nat := 80

def skipBlanks (cs : List Char) : List Char := cs.dropWhile isBlank

/-- Drops the rest of a comment, up to the end of its line. -/
def skipComment : List Char → Option (List Char)
  | [] => some []
  | '\n' :: rest => some ('\n' :: rest)
  | '\r' :: '\n' :: rest => some ('\r' :: '\n' :: rest)
  | c :: rest => if isPlain c then skipComment rest else none

/-- Drops blanks, comments and line ends. -/
def skipGaps : Nat → List Char → Option (List Char)
  | fuel + 1, c :: rest =>
    if isBlank c || c == '\n' then skipGaps fuel rest
    else if c == '\r' && rest.head? == some '\n' then skipGaps fuel rest
    else if c == '#' then (skipComment rest).bind (skipGaps fuel)
    else some (c :: rest)
  | _, cs => some cs

/-- Drops gaps of any length. -/
def skipAllGaps (cs : List Char) : Option (List Char) := skipGaps (cs.length + 1) cs

/-- Drops what may stand at the end of a line, and its end. -/
def readLineEnd (cs : List Char) : Option (List Char) := do
  let rest ← match skipBlanks cs with
    | '#' :: rest => skipComment rest
    | rest => pure rest
  match rest with
  | [] => pure []
  | '\n' :: rest => pure rest
  | '\r' :: '\n' :: rest => pure rest
  | _ => none

def isBareKey (c : Char) : Bool := c.isAlphanum || c == '_' || c == '-'

/-- Reads a single key. -/
def readSimpleKey (cs : List Char) : Option (String × List Char) :=
  match readQuoted? cs with
  | some read => if "\"\"\"".toList.isPrefixOf cs || "'''".toList.isPrefixOf cs then none else read
  | none =>
    if (cs.takeWhile isBareKey).isEmpty then none
    else some (String.ofList (cs.takeWhile isBareKey), cs.dropWhile isBareKey)

/-- Reads keys joined by dots: the path and the last key. -/
def readKey : Nat → List Char → Option (List String × String × List Char)
  | 0, _ => none
  | fuel + 1, cs => do
    let (key, rest) ← readSimpleKey (skipBlanks cs)
    match skipBlanks rest with
    | '.' :: rest =>
      let (path, last, rest) ← readKey fuel rest
      pure (key :: path, last, rest)
    | rest => pure ([], key, rest)

/-- Whether a character belongs to an unquoted value. -/
def isWordChar (c : Char) : Bool :=
  !(isBlank c || "\n\r,]\x7d[\x7b#=\"'".toList.contains c)

/-- Reads an unquoted value. A single blank may stand between a date and a time. -/
def readScalar (cs : List Char) : Option (Data × List Char) := do
  let word := cs.takeWhile isWordChar
  let rest := cs.dropWhile isWordChar
  match readDate word, rest with
  | some [], ' ' :: c :: more =>
    if c.isDigit then
      let time := (c :: more).takeWhile isWordChar
      pure (← scalar? (word ++ ' ' :: time), (c :: more).dropWhile isWordChar)
    else pure (← scalar? word, rest)
  | _, _ => pure (← scalar? word, rest)

mutual

/-- Reads a value at the start of the text. -/
def readValue : Nat → Nat → List Char → Option (Data × List Char)
  | 0, _, _ => none
  | fuel + 1, depth, cs =>
    match cs with
    | '[' :: rest => do
      guard (depth < depthLimit)
      let (items, rest) ← readItems fuel (depth + 1) rest
      pure (.array items, rest)
    | '\x7b' :: rest => do
      guard (depth < depthLimit)
      let (assignments, rest) ← readAssignments fuel (depth + 1) rest
      pure (← inlineTable? assignments, rest)
    | cs =>
      match readQuoted? cs with
      | some read => read.map fun (text, rest) => (.string text, rest)
      | none => readScalar cs

/-- Reads the items of an array and the bracket after them. -/
def readItems : Nat → Nat → List Char → Option (List Data × List Char)
  | 0, _, _ => none
  | fuel + 1, depth, cs => do
    match ← skipAllGaps cs with
    | ']' :: rest => pure ([], rest)
    | cs =>
      let (item, rest) ← readValue fuel depth cs
      match ← skipAllGaps rest with
      | ',' :: rest =>
        let (items, rest) ← readItems fuel depth rest
        pure (item :: items, rest)
      | ']' :: rest => pure ([item], rest)
      | _ => none

/-- Reads the assignments of an inline table and the brace after them. -/
def readAssignments : Nat → Nat → List Char →
    Option (List (List String × String × Data) × List Char)
  | 0, _, _ => none
  | fuel + 1, depth, cs => do
    match ← skipAllGaps cs with
    | '\x7d' :: rest => pure ([], rest)
    | cs =>
      let (path, key, rest) ← readKey (cs.length + 1) cs
      let rest ← readChar '=' rest
      let (data, rest) ← readValue fuel depth (skipBlanks rest)
      match ← skipAllGaps rest with
      | ',' :: rest =>
        let (assignments, rest) ← readAssignments fuel depth rest
        pure ((path, key, data) :: assignments, rest)
      | '\x7d' :: rest => pure ([(path, key, data)], rest)
      | _ => none

end

/-- A line of a document: a header or an assignment. -/
inductive Line where
  | header (path : List String) (key : String) (repeated : Bool)
  | assignment (path : List String) (key : String) (data : Data)

/-- Reads one line with something on it. -/
def readLine (cs : List Char) : Option (Line × List Char) := do
  match cs with
  | '[' :: '[' :: rest =>
    let (path, key, rest) ← readKey (rest.length + 1) rest
    let rest ← readChar ']' (← readChar ']' rest)
    pure (.header path key true, ← readLineEnd rest)
  | '[' :: rest =>
    let (path, key, rest) ← readKey (rest.length + 1) rest
    let rest ← readChar ']' rest
    pure (.header path key false, ← readLineEnd rest)
  | cs =>
    let (path, key, rest) ← readKey (cs.length + 1) cs
    let rest ← readChar '=' rest
    let (data, rest) ← readValue (rest.length + 1) 0 (skipBlanks rest)
    pure (.assignment path key data, ← readLineEnd rest)

/-- Reads lines to the end of the text. -/
def readLines : Nat → List Char → Option (List Line)
  | 0, _ => none
  | fuel + 1, cs => do
    match ← skipAllGaps cs with
    | [] => pure []
    | cs =>
      let (line, rest) ← readLine cs
      pure (line :: (← readLines fuel rest))

/-- Sorts lines into the assignments before the first header and the sections. -/
def sectionsOf : List Line → List (List String × String × Data) × List Section
  | [] => ([], [])
  | .assignment path key data :: lines =>
    let (assignments, sections) := sectionsOf lines
    ((path, key, data) :: assignments, sections)
  | .header path key repeated :: lines =>
    let (assignments, sections) := sectionsOf lines
    ([], ⟨path, key, repeated, assignments⟩ :: sections)

/-- The document that a text writes. A byte order mark at its start does not count. -/
def read (text : String) : Option Data := do
  let cs := match text.toList with
    | '\ufeff' :: cs => cs
    | cs => cs
  let lines ← readLines (cs.length + 1) cs
  let (assignments, sections) := sectionsOf lines
  document? assignments sections

end CheckIn.Toml

namespace CheckIn

/-- The task file that a TOML text writes. -/
def TaskFile.ofToml? (text : String) : Option TaskFile :=
  (Toml.read text).bind (TaskFile.ofData? false)

end CheckIn

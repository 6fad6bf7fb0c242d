import CheckIn.Text.Parts
import CheckIn.Text.Utf8

/-! The folder in which a rehearsal takes place. A path leads from the folder through the names
between its slashes; what lies outside of the folder is not known, and no file is found there. -/

namespace CheckIn.Rehearsal

/-- Files with the names of the folders that they lie in and their own. -/
structure Folder where
  files : List (List String × String)

namespace Folder

def namesOf (path : String) : List String :=
  (Text.splitOn (· == '/') path.toList).map String.ofList

/-- The folder with a text at each of the paths. -/
def ofTexts (texts : List (String × String)) : Folder :=
  ⟨texts.map fun (path, text) => (namesOf path, text)⟩

/-- Where a path may lead. -/
inductive Place where
  | outside
  | folder (names : List String)
  | file (text : String)

def missing : String := "No such file or directory (os error 2)"

/-- Goes on from a place to what has a name there. -/
def step (f : Folder) : Place → String → Except String Place
  | .file _, _ => .error "Not a directory (os error 20)"
  | .outside, name => if ["", ".", ".."].contains name then .ok .outside else .error missing
  | .folder names, name =>
    if name = "" ∨ name = "." then .ok (.folder names)
    else if name = ".." then .ok (if names.isEmpty then .outside else .folder names.dropLast)
    else
      let names := names ++ [name]
      match f.files.lookup names with
      | some text => .ok (.file text)
      | none => if f.files.any (names.isPrefixOf ·.1) then .ok (.folder names) else .error missing

/-- Reads the file to which a path leads. -/
def read (f : Folder) (path : String) : Except String (List UInt8) := do
  if path.isEmpty then throw missing
  if path.toList.contains '\x00' then throw "file name contained an unexpected NUL byte"
  let start := if path.startsWith "/" then .outside else .folder []
  match ← (namesOf path).foldlM f.step start with
  | .file text => pure (Text.Utf8.encode text)
  | .outside | .folder _ => throw "Is a directory (os error 21)"

end Folder

end CheckIn.Rehearsal

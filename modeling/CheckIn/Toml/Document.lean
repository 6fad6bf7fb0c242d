import CheckIn.Data

/-! The tables of a TOML document, built from its headers and assignments. A table is defined once:
by a header, by the dotted keys under one header, or by a value. A table that stands only in the
path of a header may still be defined by a header of its own. -/

namespace CheckIn.Toml

/-- How a table came about. -/
inductive Origin where
  | header
  | passed
  | dotted
  deriving DecidableEq

/-- A part of a document. A value is complete and cannot be added to. -/
inductive Node where
  | value (data : Data)
  | table (origin : Origin) (members : List (String × Node))
  | tables (items : List (List (String × Node)))

/-- A table under construction. -/
structure Table where
  origin : Origin
  members : List (String × Node)

namespace Table

def get? (t : Table) (key : String) : Option Node := (t.members.find? (·.1 == key)).map (·.2)

/-- Sets a member, in its place if there is one already. -/
def put (t : Table) (key : String) (node : Node) : Table :=
  if t.members.any (·.1 == key) then
    { t with members := t.members.map fun m => if m.1 == key then (key, node) else m }
  else { t with members := t.members ++ [(key, node)] }

def remove (t : Table) (key : String) : Table :=
  { t with members := t.members.filter (·.1 != key) }

/-- Changes the table at the end of a path, and makes the tables on the way that are not there.
A path goes through the last of several tables. Dotted keys do not go through tables that a header
defined. -/
def update (dotted : Bool) (change : Table → Option Table) : List String → Table → Option Table
  | [], t => change t
  | key :: path, t =>
    match t.get? key with
    | none => do
      let child ← update dotted change path ⟨if dotted then .dotted else .passed, []⟩
      pure (t.put key (.table child.origin child.members))
    | some (.table origin members) =>
      if dotted && origin == .header then none
      else do
        let child ← update dotted change path ⟨origin, members⟩
        pure (t.put key (.table child.origin child.members))
    | some (.tables items) =>
      match items.getLast? with
      | none => none
      | some members => do
        let child ← update dotted change path ⟨.header, members⟩
        pure (t.put key (.tables (items.dropLast ++ [child.members])))
    | some (.value _) => none

/-- Adds a member at the end of a path of keys. A table takes dotted keys only if dotted keys made
it, and a key is set once. -/
def assign (t : Table) (path : List String) (key : String) (data : Data) : Option Table :=
  t.update (!path.isEmpty) (fun parent =>
    if (parent.origin == .dotted) == path.isEmpty || (parent.get? key).isSome then none
    else some (parent.put key (.value data))) path

end Table

/-- A header and the assignments under it. -/
structure Section where
  path : List String
  key : String
  repeated : Bool
  assignments : List (List String × String × Data)

def Table.assignAll (t : Table) (assignments : List (List String × String × Data)) :
    Option Table :=
  assignments.foldlM (fun t (path, key, data) => t.assign path key data) t

/-- Adds a section. A single header may take up a table that stands in the path of another one. -/
def Table.addSection (root : Table) (s : Section) : Option Table :=
  root.update false (fun parent =>
    if s.repeated then do
      let t ← Table.assignAll ⟨.header, []⟩ s.assignments
      match parent.get? s.key with
      | none => pure (parent.put s.key (.tables [t.members]))
      | some (.tables items) => pure (parent.put s.key (.tables (items ++ [t.members])))
      | some _ => none
    else do
      let members ← match parent.get? s.key with
        | none => pure []
        | some (.table .passed members) => pure members
        | some _ => none
      let t ← Table.assignAll ⟨.header, members⟩ s.assignments
      pure (parent.put s.key (.table .header t.members))) s.path

mutual

/-- The data of a document. -/
def Node.data : Node → Data
  | .value d => d
  | .table _ members => .table (dataOfMembers members)
  | .tables items => .array (dataOfTables items)

def dataOfMembers : List (String × Node) → List (String × Data)
  | [] => []
  | (key, node) :: members => (key, node.data) :: dataOfMembers members

def dataOfTables : List (List (String × Node)) → List Data
  | [] => []
  | members :: items => .table (dataOfMembers members) :: dataOfTables items

end

/-- The table of assignments alone. -/
def inlineTable? (assignments : List (List String × String × Data)) : Option Data :=
  (Table.assignAll ⟨.header, []⟩ assignments).map fun t => .table (dataOfMembers t.members)

/-- The document of the assignments before the first header and of the sections. -/
def document? (assignments : List (List String × String × Data)) (sections : List Section) :
    Option Data := do
  let root ← Table.assignAll ⟨.header, []⟩ assignments
  let root ← sections.foldlM Table.addSection root
  pure (.table (dataOfMembers root.members))

end CheckIn.Toml

import CheckIn.Json.Basic

/-! Data as text formats write it, and the reading of records from it. A record is a table, in which
unknown names do not matter, or an array of its fields in order. -/

namespace CheckIn

/-- A value of a text format. -/
inductive Data where
  | null
  | bool (value : Bool)
  | integer (value : Int)
  | float (value : Float)
  | string (text : String)
  | array (items : List Data)
  | table (members : List (String × Data))

namespace Data

mutual

/-- The data of a JSON value; nothing if a leaf is out of range or no text. -/
def ofJson : Json → Option Data
  | .null => some .null
  | .bool value => some (.bool value)
  | .number n =>
    match n.value? with
    | some (.nat n) => some (.integer n.toNat)
    | some (.negative n) => some (.integer n.toInt)
    | some (.float x) => some (.float x)
    | none => none
  | .string s => s.map .string
  | .array items => (ofJsonItems items).map .array
  | .object members => (ofJsonMembers members).map .table

def ofJsonItems : List Json → Option (List Data)
  | [] => some []
  | item :: items => do pure ((← ofJson item) :: (← ofJsonItems items))

def ofJsonMembers : List (Option String × Json) → Option (List (String × Data))
  | [] => some []
  | (key, value) :: members => do
    pure ((← key, ← ofJson value) :: (← ofJsonMembers members))

end

/-- A value that may be left out or null. -/
def optional {α : Type} (read : Data → Option α) : Data → Option (Option α)
  | null => some none
  | d => (read d).map some

def bool? : Data → Option Bool
  | bool value => some value
  | _ => none

def string? : Data → Option String
  | string text => some text
  | _ => none

/-- An integer from `0` up to and without `limit`. -/
def natBelow? (limit : Nat) : Data → Option Nat
  | integer n => if 0 ≤ n ∧ n < limit then some n.toNat else none
  | _ => none

def nat64? : Data → Option Nat := natBelow? UInt64.size

def uint32? (d : Data) : Option UInt32 := (d.natBelow? UInt32.size).map (·.toUInt32)

def int32? : Data → Option Int32
  | integer n =>
    if Int32.minValue.toInt ≤ n ∧ n ≤ Int32.maxValue.toInt then some (Int32.ofInt n) else none
  | _ => none

/-- An integer of 64 bits or a float, rounded to 32 bits. -/
def float32? : Data → Option Float32
  | integer n =>
    if 0 ≤ n ∧ n < UInt64.size then some n.toNat.toUInt64.toFloat32
    else if Int64.minValue.toInt ≤ n ∧ n < 0 then some (Int64.ofInt n).toFloat32
    else none
  | float x => some x.toFloat32
  | _ => none

def list? {α : Type} (read : Data → Option α) : Data → Option (List α)
  | array items => items.mapM read
  | _ => none

/-- Where the fields of a record are found. -/
inductive Fields where
  | named (members : List (String × Data))
  | ordered (items : List Data)

/-- The fields of a record that has `count` of them. An array may be longer unless it has to be
exact. -/
def fields? (exact : Bool) (count : Nat) : Data → Option Fields
  | table members => some (.named members)
  | array items => if exact && count < items.length then none else some (.ordered items)
  | _ => none

namespace Fields

/-- A field by its place and its name. Of several with one name the last counts. -/
def get? (fields : Fields) (index : Nat) (name : String) : Option Data :=
  match fields with
  | named members => (members.reverse.find? (·.1 == name)).map (·.2)
  | ordered items => items[index]?

/-- Reads a field that must be there. -/
def required {α : Type} (fields : Fields) (index : Nat) (name : String)
    (read : Data → Option α) : Option α :=
  (fields.get? index name).bind read

/-- Reads a field that has a value if it is left out. -/
def defaulted {α : Type} (fields : Fields) (index : Nat) (name : String)
    (read : Data → Option α) (value : α) : Option α :=
  match fields.get? index name with
  | some d => read d
  | none => some value

/-- Reads a field that has no value if it is left out. -/
def maybe {α : Type} (fields : Fields) (index : Nat) (name : String)
    (read : Data → Option α) : Option (Option α) :=
  fields.defaulted index name (optional read) none

end Fields

/-- A pair of coordinates. -/
def pair? (exact : Bool) : Data → Option (Int32 × Int32)
  | array (x :: y :: more) =>
    if exact && !more.isEmpty then none else do pure (← x.int32?, ← y.int32?)
  | _ => none

end Data

end CheckIn

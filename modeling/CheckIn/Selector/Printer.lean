import CheckIn.Selector.Basic

/-! The written form of selectors. -/

namespace CheckIn

variable [Pattern.Library]

/-- A text between quotes, in which quotes and backslashes follow a backslash. -/
def Selector.quote (value : String) : String :=
  let escaped := value.toList.flatMap fun c => if c == '"' || c == '\\' then ['\\', c] else [c]
  "\"" ++ String.ofList escaped ++ "\""

def Atom.print : Atom → String
  | text value => "text(" ++ Selector.quote value ++ ")"
  | description value => "desc(" ++ Selector.quote value ++ ")"
  | pattern p => "desc(/" ++ p.source ++ "/)"
  | id value => "id(" ++ Selector.quote value ++ ")"

/-- A condition on `clickable` comes last. -/
def Selector.print : Selector → String
  | one atom => atom.print
  | all parts clickable =>
    " && ".intercalate (parts.map Atom.print) ++
      match clickable with
      | some value => s!" && clickable({value})"
      | none => ""

end CheckIn

import CheckIn.Text.Parts

/-! Failures and the chains of their causes. -/

namespace CheckIn

/-- Why something failed: the cause that is nearest to the user, and the causes below it. -/
structure Failure where
  cause : String
  below : List String

namespace Failure

def of (cause : String) : Failure := ⟨cause, []⟩

/-- Adds a cause that is nearer to the user. -/
def because (f : Failure) (cause : String) : Failure := ⟨cause, f.cause :: f.below⟩

/-- All causes, from the nearest down. -/
def chain (f : Failure) : String := ": ".intercalate (f.cause :: f.below)

/-- A text with a head before its first line and other lines moved in by a margin. -/
def hang (head margin text : String) : String :=
  let lines := (Text.splitOn (· == '\n') text.toList).map String.ofList
  head ++ ("\n" ++ margin).intercalate lines

/-- The causes in a column, with numbers if there are several below the first. -/
def column (f : Failure) : String :=
  let below := match f.below with
    | [] => []
    | [cause] => [hang "    " "    " cause]
    | causes => causes.mapIdx fun i cause => hang s!"    {i}: " "       " cause
  "\n".intercalate (f.cause :: if below.isEmpty then [] else ["", "Caused by:"] ++ below)

end Failure

end CheckIn

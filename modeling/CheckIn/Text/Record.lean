/-! Texts of records: a name and fields with their values between braces. -/

namespace CheckIn.Text

/-- A record with its fields. One that is not shown in full ends in two points. -/
def record (name : String) (fields : List (String × String)) ( isFull : Bool) : String :=
  let shown := fields.map fun (field, value) => s!"{field}: {value}"
  let parts := if isFull then shown else shown ++ [".."]
  name ++ " \x7b " ++ ", ".intercalate parts ++ " \x7d"

def flag (b : Bool) : String := if b then "true" else "false"

/-- A number of milliseconds in the largest unit that leaves a whole part, without idle zeros. -/
def span (milliseconds : Nat) : String :=
  if milliseconds = 0 then "0ns"
  else if milliseconds < 1000 then s!"{milliseconds}ms"
  else
    let thousandths := Nat.toDigits 10 (1000 + milliseconds % 1000)
    let fraction := (thousandths.drop 1).reverse.dropWhile (· == '0') |>.reverse
    let point := if fraction.isEmpty then "" else "."
    s!"{milliseconds / 1000}{point}{String.ofList fraction}s"

end CheckIn.Text

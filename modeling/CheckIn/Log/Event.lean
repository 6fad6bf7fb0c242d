import CheckIn.Text.Quoted

/-! Log events and the lines that show them. -/

namespace CheckIn.Log

inductive Level where
  | error
  | warn
  | info
  | debug
  | trace
  deriving DecidableEq

namespace Level

def name : Level → String
  | error => "ERROR"
  | warn => "WARN"
  | info => "INFO"
  | debug => "DEBUG"
  | trace => "TRACE"

/-- The number of a level: the greater, the more it says. -/
def rank : Level → Nat
  | error => 1
  | warn => 2
  | info => 3
  | debug => 4
  | trace => 5

end Level

/-- The value of a field. A text is shown between quotes. -/
inductive Value where
  | text (text : String)
  | shown (text : String)

/-- A log event. The target names the part of the program that speaks. -/
structure Event where
  level : Level
  target : String
  fields : List (String × Value)
  message : String

/-- A character of a message: what would steer a terminal is escaped. -/
def messageChar (c : Char) : List Char :=
  let n := c.toNat
  if n = 0x1B ∨ n = 0x07 ∨ n = 0x08 ∨ n = 0x0C ∨ n = 0x7F then
    ['\\', 'x', Nat.digitChar (n / 16), Nat.digitChar (n % 16)]
  else if 0x80 ≤ n ∧ n < 0xA0 then "\\u\x7b".toList ++ Nat.toDigits 16 n ++ ['}']
  else [c]

def Value.print : Value → String
  | text t => Text.quoted t
  | shown t => t

/-- The line of an event: level, target, message and fields. -/
def Event.line (e : Event) : String :=
  e.level.name ++ " " ++ e.target ++ ": " ++ String.ofList (e.message.toList.flatMap messageChar) ++
    String.join (e.fields.map fun (name, value) => s!" {name}={value.print}")

end CheckIn.Log

/-! Text on its way to the phone's keyboard. It passes the shell of the phone, which takes a
backslash away from before any character, and then the keyboard, which reads `%s` as a space. -/

namespace CheckIn.Phone

/-- The characters that mean something to the shell. -/
def shellSpecials : List Char :=
  ['\\', '\'', '"', '&', '<', '>', '|', ';', '(', ')', '$', '`', '*', '~', '?', '#']

def typedChar (c : Char) : List Char :=
  if c == ' ' then ['%', 's'] else if shellSpecials.contains c then ['\\', c] else [c]

/-- A text as it is handed to the shell. -/
def typed (s : String) : String := String.ofList (s.toList.flatMap typedChar)

end CheckIn.Phone

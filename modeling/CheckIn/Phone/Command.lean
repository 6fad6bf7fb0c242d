/-! Commands of the computer that the phone is connected to. -/

namespace CheckIn.Phone

/-- A program and its arguments. -/
structure Command where
  program : String
  arguments : List String

/-- How a command ended. -/
structure Outcome where
  exitCode : Nat
  /-- What it printed, and what it printed about errors. -/
  printed : List UInt8
  complaints : List UInt8

/-- A command that does nothing and succeeds. -/
def Outcome.silent : Outcome := ⟨0, [], []⟩

end CheckIn.Phone

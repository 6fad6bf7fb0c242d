import CheckIn.Text.Numeral

/-! Points in time: moments of universal time as RFC 3339 writes them, and times of day at a place
as they stand in file names. -/

namespace CheckIn.Calendar

/-- A date of the Gregorian calendar, which is extended to all years. -/
structure Date where
  year : Int
  month : Nat
  day : Nat
  deriving DecidableEq

/-- The date a number of days after the first of January 1970. Years are counted from March, in
eras of 400 years. -/
def Date.ofDays (days : Int) : Date :=
  let shifted := days + 719468
  let era := shifted / 146097
  let dayOfEra := (shifted % 146097).toNat
  let yearOfEra := (dayOfEra - dayOfEra / 1460 + dayOfEra / 36524 - dayOfEra / 146096) / 365
  let dayOfYear := dayOfEra - (365 * yearOfEra + yearOfEra / 4 - yearOfEra / 100)
  let monthFromMarch := (5 * dayOfYear + 2) / 153
  let month := if monthFromMarch < 10 then monthFromMarch + 3 else monthFromMarch - 9
  { year := Int.ofNat yearOfEra + era * 400 + if month ≤ 2 then 1 else 0
    month, day := dayOfYear - (153 * monthFromMarch + 2) / 5 + 1 }

/-- A year of four digits; one outside `0` to `9999` has a sign. -/
def printYear (year : Int) : String :=
  if 0 ≤ year ∧ year ≤ 9999 then Text.padded 4 year.toNat
  else (if year < 0 then "-" else "+") ++ Text.padded 4 year.natAbs

/-- How many nanoseconds a second has. -/
def nanosPerSecond : Nat := 1000000000

/-- How many nanoseconds a millisecond has. -/
def nanosPerMilli : Nat := 1000000

/-- How many nanoseconds a microsecond has. -/
def nanosPerMicro : Nat := 1000

/-- A moment of universal time: seconds from the start of 1970, and nanoseconds. In a leap second
the nanoseconds are a billion or more. -/
structure Moment where
  seconds : Int
  nanoseconds : Nat
  deriving DecidableEq

namespace Moment

/-- The moment of a number of seconds and nanoseconds, if its year is in range and a leap second
is the last of a minute. -/
def ofUnix? (seconds : Int) (nanoseconds : Nat) : Option Moment :=
  let year := (Date.ofDays (seconds / 86400)).year
  if -262143 ≤ year ∧ year ≤ 262142 ∧
      (nanoseconds < nanosPerSecond ∨ nanoseconds < 2 * nanosPerSecond ∧ seconds % 60 = 59) then
    some ⟨seconds, nanoseconds⟩
  else none

/-- The moment a number of milliseconds later. -/
def later (m : Moment) (milliseconds : Nat) : Moment :=
  let nanoseconds : Nat := m.nanoseconds + milliseconds % 1000 * nanosPerMilli
  ⟨m.seconds + (milliseconds / 1000 + nanoseconds / nanosPerSecond : Nat),
    nanoseconds % nanosPerSecond⟩

/-- The fraction of a second, with as many digits as it needs in groups of three. -/
def printFraction (nanoseconds : Nat) : String :=
  if nanoseconds = 0 then ""
  else if nanoseconds % nanosPerMilli = 0 then
    "." ++ Text.padded 3 (nanoseconds / nanosPerMilli)
  else if nanoseconds % nanosPerMicro = 0 then
    "." ++ Text.padded 6 (nanoseconds / nanosPerMicro)
  else "." ++ Text.padded 9 nanoseconds

/-- The moment as RFC 3339 writes it. -/
def print (m : Moment) : String :=
  let date := Date.ofDays (m.seconds / 86400)
  let second := (m.seconds % 86400).toNat
  let leap := m.nanoseconds / nanosPerSecond
  let two := Text.padded 2
  s!"{printYear date.year}-{two date.month}-{two date.day}T" ++
    s!"{two (second / 3600)}:{two (second / 60 % 60)}:{two (second % 60 + leap)}" ++
    printFraction (m.nanoseconds % nanosPerSecond) ++ "Z"

end Moment

/-- A date and time of day at a place. -/
structure LocalTime where
  year : Int
  month : Nat
  day : Nat
  hour : Nat
  minute : Nat
  second : Nat
  deriving DecidableEq

/-- The time a number of seconds after the first of January 1970. -/
def LocalTime.ofSeconds (seconds : Int) : LocalTime :=
  let date := Date.ofDays (seconds / 86400)
  let second := (seconds % 86400).toNat
  ⟨date.year, date.month, date.day, second / 3600, second / 60 % 60, second % 60⟩

/-- The time in digits, the date and the time of day joined by an underscore. -/
def LocalTime.stamp (t : LocalTime) : String :=
  let two := Text.padded 2
  s!"{printYear t.year}{two t.month}{two t.day}_{two t.hour}{two t.minute}{two t.second}"

end CheckIn.Calendar

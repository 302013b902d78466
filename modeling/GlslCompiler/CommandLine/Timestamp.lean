/-!
# Moments in time

A moment is kept as the calendar shows it in universal time. The days since the epoch are turned into a
date by counting years from March, so that the day a leap year adds is the last of its year.
-/

namespace GlslCompiler

/-- A moment in universal time. -/
structure Timestamp where
  year : Nat
  month : Nat
  day : Nat
  hour : Nat
  minute : Nat
  second : Nat
  microsecond : Nat
  deriving DecidableEq

namespace Timestamp

/-- A number with leading zeros. -/
def padded (width n : Nat) : String :=
  let digits := Nat.toDigits 10 n
  String.ofList (List.replicate (width - digits.length) '0' ++ digits)

/-- The moment in the standard notation; a fraction of zero is left out. -/
def text (t : Timestamp) : String :=
  padded 4 t.year ++ "-" ++ padded 2 t.month ++ "-" ++ padded 2 t.day ++ "T" ++ padded 2 t.hour ++ ":"
    ++ padded 2 t.minute ++ ":" ++ padded 2 t.second
    ++ (if t.microsecond = 0 then "" else "." ++ padded 6 t.microsecond) ++ "+00:00"

/-- The days from the first of March of year 0 to the epoch. -/
def daysToEpoch : Nat := 719468

/-- The days of four hundred years. -/
def daysPerEra : Nat := 146097

/-- Year, month and day of the day with a number, counted from the epoch. -/
def date (days : Nat) : Nat × Nat × Nat :=
  let era := (days + daysToEpoch) / daysPerEra
  let dayOfEra := (days + daysToEpoch) % daysPerEra
  let yearOfEra := (dayOfEra - dayOfEra / 1460 + dayOfEra / 36524 - dayOfEra / 146096) / 365
  let dayOfYear := dayOfEra - (365 * yearOfEra + yearOfEra / 4 - yearOfEra / 100)
  let monthFromMarch := (5 * dayOfYear + 2) / 153
  let day := dayOfYear - (153 * monthFromMarch + 2) / 5 + 1
  let month := if monthFromMarch < 10 then monthFromMarch + 3 else monthFromMarch - 9
  (400 * era + yearOfEra + (if month ≤ 2 then 1 else 0), month, day)

/-- The moment a number of microseconds after the epoch. -/
def ofMicroseconds (microseconds : Nat) : Timestamp :=
  let seconds := microseconds / 1000000
  let (year, month, day) := date (seconds / 86400)
  { year := year
    month := month
    day := day
    hour := seconds / 3600 % 24
    minute := seconds / 60 % 60
    second := seconds % 60
    microsecond := microseconds % 1000000 }

end Timestamp

end GlslCompiler

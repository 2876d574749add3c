/-!
# Instants

A moment in time counts seconds from the start of the year 1970 and nanoseconds from there. It is
written as a date and a time of day in the Gregorian calendar, cut to milliseconds. Years of the
calendar are counted with a year zero; the calendar repeats after four hundred years, which are an
era. Within an era years start in March, so that the leap day is the last day of its year.
-/
namespace GrammarLex

structure Instant where
  -- Whole seconds from the start of 1970.
  seconds : Int
  -- Nanoseconds from there. A second or more of them lies inside a leap second.
  nanos : Nat := 0
  deriving DecidableEq, Repr

namespace Instant

def epoch : Instant := ⟨0, 0⟩

structure Date where
  -- Year, with a year zero.
  year : Int
  -- Month, from one.
  month : Nat
  -- Day of the month, from one.
  day : Nat
  deriving DecidableEq, Repr

def daysPerEra : Nat := 146097

/-- Days from the first of March of the year zero to the start of 1970. -/
def daysBeforeEpoch : Int := 719468

def dateOfDay (day : Int) : Date :=
  let era := (day + daysBeforeEpoch) / daysPerEra
  let dayOfEra := ((day + daysBeforeEpoch) % daysPerEra).toNat
  let yearOfEra :=
    (dayOfEra - dayOfEra / 1460 + dayOfEra / 36524 - dayOfEra / (daysPerEra - 1)) / 365
  let dayOfYear := dayOfEra - (365 * yearOfEra + yearOfEra / 4 - yearOfEra / 100)
  let monthFromMarch := (5 * dayOfYear + 2) / 153
  let month := if monthFromMarch < 10 then monthFromMarch + 3 else monthFromMarch - 9
  let year := era * 400 + yearOfEra
  ⟨if month ≤ 2 then year + 1 else year, month, dayOfYear - (153 * monthFromMarch + 2) / 5 + 1⟩

def padded (width n : Nat) : String :=
  let digits := toString n
  "".pushn '0' (width - digits.length) ++ digits

/-- A year of four digits; one before the year zero or after 9999 has a sign. -/
def renderYear (year : Int) : String :=
  if year < 0 then "-" ++ padded 4 year.natAbs
  else if year > 9999 then "+" ++ padded 4 year.natAbs
  else padded 4 year.natAbs

/-- Date and time of day, to the millisecond, at the zero meridian. -/
def render (t : Instant) : String :=
  let date := dateOfDay (t.seconds / 86400)
  let second := (t.seconds % 86400).toNat
  renderYear date.year ++ "-" ++ padded 2 date.month ++ "-" ++ padded 2 date.day ++ "T" ++
    padded 2 (second / 3600) ++ ":" ++ padded 2 (second / 60 % 60) ++ ":" ++
    padded 2 (second % 60 + t.nanos / 1000000000) ++ "." ++
    padded 3 (t.nanos % 1000000000 / 1000000) ++ "Z"

end Instant

end GrammarLex

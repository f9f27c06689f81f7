import RepoVitals.Calendar.Date
/-!
Moments in universal time.

Owns:
- the type of moments, which may fall inside a leap second;
- the calendar date of a day that is counted from 1970-01-01;
- the rendering of a moment with milliseconds, where the finer part is cut off.
-/

namespace RepoVitals.Calendar

/-- Seconds since 1970-01-01T00:00:00Z and nanoseconds.  Inside a leap second the nanoseconds count
on from the second before it. -/
structure Moment where
  seconds : Int
  nanoseconds : Nat
  deriving DecidableEq

/-- The year, month and day of a day counted from 1970-01-01.  The count is taken from the 1st of
March of a year divisible by 400, so that leap days end the years. -/
def civilOfDays (days : Int) : Int × Nat × Nat :=
  let shifted := days + 719468
  let era := shifted / 146097
  let dayOfEra := (shifted % 146097).toNat
  let yearOfEra := (dayOfEra - dayOfEra / 1460 + dayOfEra / 36524 - dayOfEra / 146096) / 365
  let dayOfYear := dayOfEra - (365 * yearOfEra + yearOfEra / 4 - yearOfEra / 100)
  let monthFromMarch := (5 * dayOfYear + 2) / 153
  let day := dayOfYear - (153 * monthFromMarch + 2) / 5 + 1
  let month := if monthFromMarch < 10 then monthFromMarch + 3 else monthFromMarch - 9
  let year := era * 400 + yearOfEra + (if month ≤ 2 then 1 else 0)
  (year, month, day)

namespace Moment

/-- The year, month and day of the moment. -/
def civil (moment : Moment) : Int × Nat × Nat :=
  civilOfDays (moment.seconds / 86400)

/-- The moment with these parts.  Nanoseconds past a full second are possible only where the minute
ends, and the year has to be supported. -/
def ofParts? (seconds : Int) (nanoseconds : Nat) : Option Moment :=
  let moment : Moment := ⟨seconds, nanoseconds⟩
  let year := moment.civil.1
  if (nanoseconds < 1000000000 ∨ (nanoseconds < 2000000000 ∧ seconds % 60 = 59)) ∧
      firstYear ≤ year ∧ year ≤ lastYear then
    some moment
  else none

/-- The moment as date and time, with milliseconds and the mark of universal time. -/
def text (moment : Moment) : String :=
  let (year, month, day) := moment.civil
  let secondOfDay := (moment.seconds % 86400).toNat
  let leap := moment.nanoseconds / 1000000000
  let milliseconds := moment.nanoseconds % 1000000000 / 1000000
  yearText year ++ "-" ++ Text.padded 2 month ++ "-" ++ Text.padded 2 day ++ "T" ++
    Text.padded 2 (secondOfDay / 3600) ++ ":" ++ Text.padded 2 (secondOfDay % 3600 / 60) ++ ":" ++
    Text.padded 2 (secondOfDay % 60 + leap) ++ "." ++ Text.padded 3 milliseconds ++ "Z"

end Moment

end RepoVitals.Calendar

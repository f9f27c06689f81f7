import RepoVitals.Text.Numeral
/-!
Dates of the proleptic Gregorian calendar.

Owns:
- the type of dates, each of which exists and lies in the supported range of years;
- their numeric rendering, and the buckets of a day and of a month.

Years have at least four digits.  A year past 9999 carries a plus sign and a year before zero a
minus sign, so that a rendered date can be read back.
-/

namespace RepoVitals.Calendar

/-- Every fourth year is a leap year, but of the full centuries only every fourth. -/
def isLeapYear (year : Int) : Bool :=
  year % 4 = 0 && (year % 100 ≠ 0 || year % 400 = 0)

/-- The number of days of a month; no other month has any. -/
def daysInMonth (year : Int) (month : Nat) : Nat :=
  if month = 2 then if isLeapYear year then 29 else 28
  else if month = 4 ∨ month = 6 ∨ month = 9 ∨ month = 11 then 30
  else if 1 ≤ month ∧ month ≤ 12 then 31
  else 0

/-- The first supported year. -/
def firstYear : Int := -262143

/-- The last supported year. -/
def lastYear : Int := 262142

/-- The year is supported and has this day. -/
def Exists (year : Int) (month day : Nat) : Prop :=
  firstYear ≤ year ∧ year ≤ lastYear ∧ 1 ≤ day ∧ day ≤ daysInMonth year month

instance (year : Int) (month day : Nat) : Decidable (Exists year month day) := by
  unfold Exists
  infer_instance

/-- A date that exists. -/
structure Date where
  year : Int
  month : Nat
  day : Nat
  isDate : Exists year month day
  deriving DecidableEq

namespace Date

/-- The date with these parts, if there is one. -/
def ofParts? (year : Int) (month day : Nat) : Option Date :=
  if isDate : Exists year month day then some ⟨year, month, day, isDate⟩ else none

end Date

/-- A year with its sign where it needs one. -/
def yearText (year : Int) : String :=
  if year < 0 then "-" ++ Text.padded 4 year.natAbs
  else if 9999 < year then "+" ++ Text.decimal year.natAbs
  else Text.padded 4 year.natAbs

/-- The date as year, month and day. -/
def Date.text (date : Date) : String :=
  yearText date.year ++ "-" ++ Text.padded 2 date.month ++ "-" ++ Text.padded 2 date.day

/-- The time that a document or an index covers. -/
inductive Bucket where
  | day (date : Date)
  | month (date : Date)
  deriving DecidableEq

/-- A day is rendered year first, a month with the month first. -/
def Bucket.text : Bucket → String
  | .day date => date.text
  | .month date => Text.padded 2 date.month ++ "-" ++ yearText date.year

end RepoVitals.Calendar

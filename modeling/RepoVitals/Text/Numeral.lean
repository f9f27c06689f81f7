/-!
Numerals in running text.

Owns:
- decimal numerals, padded with zeros to a width or in groups of three digits; a padded numeral
  reads back as its number;
- hexadecimal digits, written and read;
- clock readings of whole seconds;
- exact durations in their largest unit.
-/

namespace RepoVitals.Text

/-- The decimal numeral of a natural number. -/
def decimal (value : Nat) : String :=
  String.ofList (Nat.toDigits 10 value)

/-- The decimal numeral with zeros in front up to `width` digits. -/
def padded (width value : Nat) : String :=
  let digits := Nat.toDigits 10 value
  String.ofList (List.replicate (width - digits.length) '0' ++ digits)

theorem toList_padded (width value : Nat) :
    (padded width value).toList =
      List.replicate (width - (Nat.toDigits 10 value).length) '0' ++ Nat.toDigits 10 value := by
  simp only [padded, String.toList_ofList]

theorem length_padded (width value : Nat) :
    (padded width value).toList.length = max width (Nat.toDigits 10 value).length := by
  rw [toList_padded, List.length_append, List.length_replicate]
  omega

theorem isDigit_of_mem_padded
    {width value : Nat}
    {letter : Char}
    (member : letter ∈ (padded width value).toList) :
    letter.isDigit = true := by
  rw [toList_padded] at member
  rcases List.mem_append.mp member with zero | digit
  · rw [List.eq_of_mem_replicate zero]
    rfl
  · exact Nat.isDigit_of_mem_toDigits (by decide) (by decide) digit

/-- A padded numeral reads back as its number. -/
theorem ofDigitChars_padded (width value : Nat) :
    Nat.ofDigitChars 10 (padded width value).toList 0 = value := by
  rw [toList_padded, Nat.ofDigitChars_append, Nat.ofDigitChars_replicate_zero, Nat.mul_zero]
  exact Nat.ofDigitChars_ten_toDigits

theorem eq_of_padded_eq
    {width first second : Nat}
    (same : (padded width first).toList = (padded width second).toList) :
    first = second := by
  rw [← ofDigitChars_padded width first, same, ofDigitChars_padded]

/-- Put a comma before each digit that has a positive multiple of three digits from it to the
end, except before the first digit of the numeral. -/
def groupDigits : List Char → List Char
  | [] => []
  | [last] => [last]
  | digit :: next :: rest =>
    if (next :: rest).length % 3 = 0 then digit :: ',' :: groupDigits (next :: rest)
    else digit :: groupDigits (next :: rest)

/-- The decimal numeral in groups of three digits, separated by commas. -/
def grouped (value : Nat) : String :=
  String.ofList (groupDigits (Nat.toDigits 10 value))

/-- A hexadecimal digit in lower case. -/
def hexDigit (value : Nat) : Char :=
  if value < 10 then Char.ofNat ('0'.toNat + value) else Char.ofNat ('a'.toNat + value - 10)

/-- The value of a hexadecimal digit in either case. -/
def hexValue? (letter : Char) : Option Nat :=
  if '0' ≤ letter ∧ letter ≤ '9' then some (letter.toNat - '0'.toNat)
  else if 'a' ≤ letter ∧ letter ≤ 'f' then some (letter.toNat - 'a'.toNat + 10)
  else if 'A' ≤ letter ∧ letter ≤ 'F' then some (letter.toNat - 'A'.toNat + 10)
  else none

/-- Nanoseconds in a second. -/
def nanosecondsPerSecond : Nat := 1000000000

/-- Nanoseconds in a millisecond. -/
def nanosecondsPerMillisecond : Nat := 1000000

/-- A duration in nanoseconds as minutes and seconds, after hours if there are any. -/
def clock (nanoseconds : Nat) : String :=
  let seconds := nanoseconds / nanosecondsPerSecond
  let hours := seconds / 3600
  let tail := padded 2 (seconds % 3600 / 60) ++ ":" ++ padded 2 (seconds % 60)
  if 0 < hours then padded 2 hours ++ ":" ++ tail else tail

/-- Drop the zeros at the end of a fraction. -/
private def dropTrailingZeros (digits : List Char) : List Char :=
  (digits.reverse.dropWhile (· = '0')).reverse

/-- A whole number of units and the rest of one unit, given with `places` decimal places. -/
private def withFraction (whole rest places : Nat) : String :=
  let fraction := dropTrailingZeros (padded places rest).toList
  if fraction = [] then decimal whole
  else decimal whole ++ "." ++ String.ofList fraction

/-- A duration in nanoseconds, exactly, in the largest of the units seconds, milliseconds,
microseconds and nanoseconds that it reaches. -/
def exactDuration (nanoseconds : Nat) : String :=
  if nanosecondsPerSecond ≤ nanoseconds then
    withFraction (nanoseconds / nanosecondsPerSecond) (nanoseconds % nanosecondsPerSecond) 9 ++ "s"
  else if nanosecondsPerMillisecond ≤ nanoseconds then
    withFraction (nanoseconds / nanosecondsPerMillisecond)
      (nanoseconds % nanosecondsPerMillisecond) 6 ++ "ms"
  else if 1000 ≤ nanoseconds then
    withFraction (nanoseconds / 1000) (nanoseconds % 1000) 3 ++ "µs"
  else decimal nanoseconds ++ "ns"

end RepoVitals.Text

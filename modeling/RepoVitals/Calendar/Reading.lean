import RepoVitals.Binary64.Reading
import RepoVitals.Calendar.Date
import RepoVitals.Text.Blank
/-!
Dates read from text.

Owns the grammar: year, month and day with hyphens between them.  A year without a sign has at most
four digits, one with a sign any number of them; month and day have one or two.  Blanks may stand in
front of each number and each hyphen and at the end.
-/

namespace RepoVitals.Calendar

/-- The text without the blanks at its start. -/
def skipBlanks (letters : List Char) : List Char :=
  letters.dropWhile Text.isBlank

/-- A run of digits at the start, at most `limit` of them if there is a limit, and what follows
it. -/
def takeNumber? (limit : Option Nat) (letters : List Char) : Option (Nat × List Char) :=
  let run := letters.takeWhile Char.isDigit
  let digits :=
    match limit with
    | some most => run.take most
    | none => run
  if digits = [] then none
  else some (Binary64.naturalOfDigits digits, letters.drop digits.length)

/-- A year at the start, and what follows it. -/
def takeYear? : List Char → Option (Int × List Char)
  | '-' :: rest => (takeNumber? none rest).map (fun found => (-(found.1 : Int), found.2))
  | '+' :: rest => (takeNumber? none rest).map (fun found => ((found.1 : Int), found.2))
  | letters => (takeNumber? (some 4) letters).map (fun found => ((found.1 : Int), found.2))

/-- What follows a hyphen, if the text starts with one. -/
def afterHyphen? : List Char → Option (List Char)
  | '-' :: rest => some rest
  | _ => none

/-- The date that a text names, if there is one. -/
def Date.ofText? (text : String) : Option Date := do
  let (year, rest) ← takeYear? (skipBlanks text.toList)
  let (month, rest) ← takeNumber? (some 2) (skipBlanks (← afterHyphen? (skipBlanks rest)))
  let (day, rest) ← takeNumber? (some 2) (skipBlanks (← afterHyphen? (skipBlanks rest)))
  if skipBlanks rest = [] then Date.ofParts? year month day else none

end RepoVitals.Calendar

import RepoVitals.Binary64.Reading
import RepoVitals.Calendar.Date
import RepoVitals.Config.Setting
import RepoVitals.Text.Numeral
/-!
TOML scalars: what a bare word stands for.

Owns:
- digits with underscores between them;
- integers, in decimal or with the mark of another base, within 64 bits;
- floating-point numbers, which must not be too large;
- dates, times of day, and both together.

A date or a time is kept as written, in a table with one field that nothing else can have.
-/

namespace RepoVitals.Toml

open Config (Setting)

/-! ### Numbers -/

/-- The digits of a numeral without its underscores, each of which stands between two digits. -/
def digits? (isDigit : Char → Bool) : List Char → Option (List Char)
  | [] => none
  | [last] => if isDigit last then some [last] else none
  | first :: '_' :: rest => if isDigit first then (digits? isDigit rest).map (first :: ·) else none
  | first :: next :: rest =>
    if isDigit first then (digits? isDigit (next :: rest)).map (first :: ·) else none

/-- Digits that do not start with a zero, or a zero alone. -/
def decimal? (letters : List Char) : Option (List Char) := do
  let digits ← digits? Char.isDigit letters
  if digits.head? = some '0' ∧ letters.length ≠ 1 then none else some digits

/-- The natural number that digits in a base stand for. -/
def naturalOfDigits (base : Nat) (digits : List Char) : Nat :=
  digits.foldl (fun value digit => base * value + (Text.hexValue? digit).getD 0) 0

/-- The integer, if it fits 64 bits with its sign. -/
def bounded? (value : Int) : Option Int :=
  if Binary64.leastInt64 ≤ value ∧ value ≤ Binary64.greatestInt64 then some value else none

/-- An integer in a base other than ten: digits after a mark, without a sign. -/
def markedInteger? (base : Nat) (letters : List Char) : Option Int := do
  let isDigit := fun letter => (Text.hexValue? letter).any (· < base)
  bounded? (naturalOfDigits base (← digits? isDigit letters))

/-- An integer. -/
def integer? : List Char → Option Int
  | '0' :: 'x' :: rest => markedInteger? 16 rest
  | '0' :: 'o' :: rest => markedInteger? 8 rest
  | '0' :: 'b' :: rest => markedInteger? 2 rest
  | letters => do
    let (negative, unsigned) := Binary64.takeSign letters
    let magnitude : Int := naturalOfDigits 10 (← decimal? unsigned)
    bounded? (if negative then -magnitude else magnitude)

/-- The letter starts the exponent of a number. -/
def isExponentMark (letter : Char) : Bool :=
  letter = 'e' || letter = 'E'

/-- An unsigned number with a fraction or an exponent, without its underscores. -/
def plainFloat? (letters : List Char) : Option (List Char) := do
  let mantissa := letters.takeWhile (fun letter => !isExponentMark letter)
  let whole ← decimal? (mantissa.takeWhile (· ≠ '.'))
  let fraction ←
    match mantissa.dropWhile (· ≠ '.') with
    | [] => some []
    | point :: digits => (digits? Char.isDigit digits).map (point :: ·)
  let exponent ←
    match letters.dropWhile (fun letter => !isExponentMark letter) with
    | [] => some []
    | mark :: rest =>
      let (negative, unsigned) := Binary64.takeSign rest
      (digits? Char.isDigit unsigned).map
        (fun digits => if negative then mark :: '-' :: digits else mark :: digits)
  if fraction = [] ∧ exponent = [] then none else some (whole ++ fraction ++ exponent)

/-- A floating-point number.  A positive one that is too large is refused, a negative one is
infinite. -/
def float? (letters : List Char) : Option Binary64 :=
  let (negative, unsigned) := Binary64.takeSign letters
  if unsigned = ['i', 'n', 'f'] then some (.ofRank negative infinityRank)
  else if unsigned = ['n', 'a', 'n'] then some .notANumber
  else do
    let magnitude ← Binary64.ofText? (String.ofList (← plainFloat? unsigned))
    if magnitude.isInfinite ∧ ¬negative then none
    else some (if negative then magnitude.negate else magnitude)

/-! ### Dates and times -/

/-- A run of `width` digits whose value lies between the bounds, and what follows it. -/
def field? (width least greatest : Nat) (letters : List Char) : Option (Nat × List Char) :=
  let digits := letters.take width
  let value := Binary64.naturalOfDigits digits
  if digits.length = width ∧ digits.all Char.isDigit ∧ least ≤ value ∧ value ≤ greatest then
    some (value, letters.drop width)
  else none

/-- A character, and what follows it. -/
def mark? (mark : Char) : List Char → Option (List Char)
  | letter :: rest => if letter = mark then some rest else none
  | [] => none

/-- A date at the start, and what follows it. -/
def takeDate? (letters : List Char) : Option (List Char) := do
  let (year, rest) ← field? 4 0 9999 letters
  let (month, rest) ← field? 2 1 12 (← mark? '-' rest)
  let (_, rest) ← field? 2 1 (Calendar.daysInMonth year month) (← mark? '-' rest)
  some rest

/-- A time of day at the start, perhaps with a fraction of a second, and what follows it. -/
def takeTime? (letters : List Char) : Option (List Char) := do
  let (_, rest) ← field? 2 0 23 letters
  let (_, rest) ← field? 2 0 59 (← mark? ':' rest)
  let (_, rest) ← field? 2 0 60 (← mark? ':' rest)
  match rest with
  | '.' :: digits =>
    if (digits.takeWhile Char.isDigit).isEmpty then none
    else some (digits.dropWhile Char.isDigit)
  | _ => some rest

/-- The whole text is the difference of a clock from universal time. -/
def isOffset : List Char → Bool
  | ['Z'] | ['z'] => true
  | sign :: rest =>
    (sign = '+' || sign = '-') && Option.isSome (do
      let (_, rest) ← field? 2 0 23 rest
      let (_, rest) ← field? 2 0 59 (← mark? ':' rest)
      if rest = [] then some () else none)
  | [] => false

/-- The whole text is a date. -/
def isDate (letters : List Char) : Bool :=
  takeDate? letters = some []

/-- The whole text is a time of day, perhaps with an offset. -/
def isTimeWithOffset (letters : List Char) : Bool :=
  match takeTime? letters with
  | some rest => rest = [] || isOffset rest
  | none => false

/-- The whole text is a date, a time of day, or a date and a time. -/
def isMoment (letters : List Char) : Bool :=
  takeTime? letters = some [] ||
    match takeDate? letters with
    | some [] => true
    | some (mark :: rest) => (mark = 'T' || mark = 't') && isTimeWithOffset rest
    | none => false

/-- The field that holds a date or a time. -/
def momentField : String := "$__toml_private_datetime"

/-! ### Words -/

/-- The setting that a word stands for. -/
def scalar? (letters : List Char) : Option Setting :=
  if letters = ['t', 'r', 'u', 'e'] then some (.boolean true)
  else if letters = ['f', 'a', 'l', 's', 'e'] then some (.boolean false)
  else if isMoment letters then
    some (.table [(momentField, .text (String.ofList letters))])
  else
    match integer? letters, float? letters with
    | some value, _ => some (.integer value)
    | none, some value => some (.float value)
    | none, none => none

end RepoVitals.Toml

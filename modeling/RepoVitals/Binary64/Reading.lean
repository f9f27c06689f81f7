import RepoVitals.Binary64.Basic
/-!
Decimal text read as the nearest 64-bit number.

Owns:
- the grammar: an optional sign, then `inf`, `infinity` or `nan` in any case, or digits with an
  optional point (digits on at least one side of it) and an optional exponent;
- the correctly rounded value, where a value past the greatest number is infinity.
-/

namespace RepoVitals.Binary64

/-- The digit that a decimal character stands for. -/
def digitValue (digit : Char) : Nat :=
  digit.toNat - '0'.toNat

/-- The natural number that a list of decimal characters stands for. -/
def naturalOfDigits (digits : List Char) : Nat :=
  digits.foldl (fun value digit => 10 * value + digitValue digit) 0

/-- The number nearest to `± digits · 10 ^ exponent`.  A decimal of more than 400 places before the
point is infinite and one that starts more than 400 places after it is zero, so that the powers
stay small. -/
def ofDecimal (negative : Bool) (digits : Nat) (exponent : Int) : Binary64 :=
  if digits = 0 then ofRank negative 0
  else
    let places : Int := (Nat.toDigits 10 digits).length + exponent
    if 400 < places then ofRank negative infinityRank
    else if places < -400 then ofRank negative 0
    else if exponent < 0 then ofRatio negative digits (Nat.pow 10 exponent.natAbs)
    else ofRatio negative (digits * Nat.pow 10 exponent.natAbs) 1

/-- A sign, if there is one, and what follows it. -/
def takeSign : List Char → Bool × List Char
  | '-' :: rest => (true, rest)
  | '+' :: rest => (false, rest)
  | letters => (false, letters)

/-- The exponent part: nothing at all, or `e` and a signed run of digits up to the end. -/
def exponentPart? : List Char → Option Int
  | [] => some 0
  | mark :: rest =>
    if mark = 'e' ∨ mark = 'E' then
      let (negative, digits) := takeSign rest
      if digits ≠ [] ∧ digits.all Char.isDigit then
        let magnitude : Int := naturalOfDigits digits
        some (if negative then -magnitude else magnitude)
      else none
    else none

/-- An unsigned decimal numeral. -/
def unsignedDecimal? (negative : Bool) (letters : List Char) : Option Binary64 := do
  let whole := letters.takeWhile Char.isDigit
  let afterWhole := letters.dropWhile Char.isDigit
  let (fraction, rest) :=
    match afterWhole with
    | '.' :: afterPoint =>
      (afterPoint.takeWhile Char.isDigit, afterPoint.dropWhile Char.isDigit)
    | _ => ([], afterWhole)
  if whole = [] ∧ fraction = [] then none
  else
    let exponent ← exponentPart? rest
    some (ofDecimal negative (naturalOfDigits (whole ++ fraction)) (exponent - fraction.length))

/-- The number that a decimal text stands for, if it is one. -/
def ofText? (text : String) : Option Binary64 :=
  let (negative, letters) := takeSign text.toList
  let lowered := letters.map Char.toLower
  if lowered = ['i', 'n', 'f'] ∨ lowered = ['i', 'n', 'f', 'i', 'n', 'i', 't', 'y'] then
    some (ofRank negative infinityRank)
  else if lowered = ['n', 'a', 'n'] then some .notANumber
  else unsignedDecimal? negative letters

end RepoVitals.Binary64

import RepoVitals.Binary64.Reading
/-!
JSON numbers: numerals as written, and the numbers they are read as.

Owns:
- the grammar of numerals;
- the reading of a numeral: an integer that fits 64 bits stays an integer, signed or unsigned, and
  every other numeral is a 64-bit floating-point number;
- the two integer views of a number.

A floating-point numeral is read in one pass: its digits are gathered into an unsigned 64-bit
integer for as long as they fit, that integer is rounded to a floating-point number, and the result
is multiplied or divided by one power of ten.  The two roundings can leave the last place one off
the nearest number, and a numeral past the greatest number is refused.  Minus zero is a
floating-point number, since no integer has a sign at zero.
-/

namespace RepoVitals.Json

/-- A number. -/
inductive Number where
  | integer (value : Int)
  | float (value : Binary64)
  deriving DecidableEq

/-- A numeral as written; the exponent has its sign. -/
structure Numeral where
  negative : Bool
  whole : List Char
  fraction : List Char
  exponent : Option (Bool × List Char)
  deriving DecidableEq

namespace Numeral

/-- The exponent part of a numeral: nothing, or `e` with a signed run of digits. -/
def exponentOfLetters? : List Char → Option (Option (Bool × List Char))
  | [] => some none
  | mark :: rest =>
    if mark = 'e' ∨ mark = 'E' then
      let (negative, digits) := Binary64.takeSign rest
      if digits ≠ [] ∧ digits.all Char.isDigit then some (some (negative, digits)) else none
    else none

/-- The numeral that a bare word is: a whole part without needless zeros, then perhaps a point with
digits, then perhaps an exponent. -/
def ofLetters? (letters : List Char) : Option Numeral := do
  let negative := letters.head? = some '-'
  let unsigned := if negative then letters.drop 1 else letters
  let whole := unsigned.takeWhile Char.isDigit
  let afterWhole := unsigned.dropWhile Char.isDigit
  if whole = [] ∨ (whole.head? = some '0' ∧ whole.length ≠ 1) then none
  else
    match afterWhole with
    | '.' :: afterPoint =>
      let fraction := afterPoint.takeWhile Char.isDigit
      if fraction = [] then none
      else
        let exponent ← exponentOfLetters? (afterPoint.dropWhile Char.isDigit)
        some ⟨negative, whole, fraction, exponent⟩
    | _ =>
      let exponent ← exponentOfLetters? afterWhole
      some ⟨negative, whole, [], exponent⟩

/-- The greatest unsigned 64-bit integer. -/
def greatestUInt64 : Nat := UInt64.size - 1

/-- Take digits into a significand as long as it fits 64 bits: the significand, and how many of the
digits were left over. -/
def gather (significand : Nat) : List Char → Nat × List Char
  | [] => (significand, [])
  | digit :: rest =>
    let next := 10 * significand + Binary64.digitValue digit
    if greatestUInt64 < next then (significand, digit :: rest) else gather next rest

/-- Multiply a number by a power of ten, in one step up to `10 ^ 308`.  Past that a number other
than zero would be too large and is refused. -/
def raise? (value : Binary64) (exponent : Nat) : Option Binary64 :=
  if 308 < exponent then if value.isZero then some value else none
  else
    let product := value.multiply (Binary64.ofRatio false (Nat.pow 10 exponent) 1)
    if product.isInfinite then none else some product

/-- Divide a number below `2 ^ 64` by a power of ten, `10 ^ 308` at a time.  Two such divisions
always leave zero. -/
def lower (value : Binary64) (exponent : Nat) : Binary64 :=
  let greatestStep := Binary64.ofRatio false (Nat.pow 10 308) 1
  if exponent ≤ 308 then value.divide (Binary64.ofRatio false (Nat.pow 10 exponent) 1)
  else if exponent ≤ 616 then
    (value.divide greatestStep).divide (Binary64.ofRatio false (Nat.pow 10 (exponent - 308)) 1)
  else (value.divide greatestStep).divide greatestStep

/-- The number `± significand · 10 ^ exponent`, read in one pass. -/
def scaled? (negative : Bool) (significand : Nat) (exponent : Int) : Option Binary64 :=
  let value := Binary64.ofRatio false significand 1
  let magnitude :=
    if 0 ≤ exponent then raise? value exponent.toNat else some (lower value exponent.natAbs)
  magnitude.map (fun found => if negative then found.negate else found)

/-- The greatest exponent that is still counted, and minus the least. -/
def greatestExponent : Nat := UInt32.size / 2 - 1

/-- Put the written exponent on top of the one that the digits left over make.  An exponent beyond
32 bits is decided without the digits: zero stays zero, a large number is refused and a small one is
zero. -/
def withExponent? (numeral : Numeral) (significand : Nat) (moved : Int) :
    Option Binary64 :=
  match numeral.exponent with
  | none => scaled? numeral.negative significand moved
  | some (below, digits) =>
    let written := Binary64.naturalOfDigits digits
    if greatestExponent < written then
      if significand ≠ 0 ∧ ¬below then none
      else some (Binary64.ofRank numeral.negative 0)
    else
      let exponent : Int := if below then moved - written else moved + written
      scaled? numeral.negative significand
        (max (-(greatestExponent : Int) - 1) (min greatestExponent exponent))

/-- A numeral that is read as a floating-point number. -/
def float? (numeral : Numeral) : Option Binary64 :=
  let (wholePart, unread) := gather 0 numeral.whole
  let (significand, unreadFraction) := gather wholePart numeral.fraction
  let taken := numeral.fraction.length - unreadFraction.length
  withExponent? numeral significand ((unread.length : Int) - taken)

/-- The number that a numeral is read as. -/
def number? (numeral : Numeral) : Option Number :=
  let magnitude := Binary64.naturalOfDigits numeral.whole
  let plain : Bool := numeral.fraction = [] ∧ numeral.exponent = none
  if plain ∧ ¬numeral.negative ∧ magnitude ≤ greatestUInt64 then
    some (.integer magnitude)
  else if plain ∧ numeral.negative ∧ 0 < magnitude ∧ magnitude ≤ UInt64.size / 2 then
    some (.integer (-(magnitude : Int)))
  else numeral.float?.map .float

end Numeral

namespace Number

/-- The number as a signed 64-bit integer, if it is written as one. -/
def toInt64? : Number → Option Int
  | .integer value =>
    if Binary64.leastInt64 ≤ value ∧ value ≤ Binary64.greatestInt64 then some value else none
  | .float _ => none

/-- The nearest 64-bit floating-point number. -/
def toBinary64 : Number → Binary64
  | .integer value => Binary64.ofInt value
  | .float value => value

end Number

end RepoVitals.Json

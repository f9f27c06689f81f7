import RepoVitals.Json.Value
import RepoVitals.Binary64.Shortest
import RepoVitals.Text.Numeral
/-!
JSON text made from values.

Owns:
- numerals: integers in decimal, floating-point numbers as their shortest decimal with a fraction or
  an exponent, and null in place of a number that is not finite;
- quoted text, where a quote, a backslash and the control characters below U+0020 are escaped and
  every other character stands for itself;
- values without blanks, the fields of an object in the order in which they are held.
-/

namespace RepoVitals.Json

/-! ### Numerals -/

/-- The decimal digits of a natural number. -/
def digitsOf (value : Nat) : List Char := Nat.toDigits 10 value

/-- An integer in decimal. -/
def renderInteger (value : Int) : List Char :=
  if value < 0 then '-' :: digitsOf value.natAbs else digitsOf value.natAbs

/-- A positive decimal in positions or with an exponent.  Positions are used while the point falls
at most four places before the first digit and at most sixteen places after it. -/
def renderDecimal (decimal : Binary64.Decimal) : List Char :=
  let digits := digitsOf decimal.digits
  let count := digits.length
  let point : Int := count + decimal.exponent
  if 0 ≤ decimal.exponent ∧ point ≤ 16 then
    digits ++ List.replicate decimal.exponent.toNat '0' ++ ['.', '0']
  else if 0 < point ∧ point ≤ 16 then
    digits.take point.toNat ++ '.' :: digits.drop point.toNat
  else if -5 < point ∧ point ≤ 0 then
    ['0', '.'] ++ List.replicate point.natAbs '0' ++ digits
  else
    let exponent := point - 1
    let mark := if exponent < 0 then ['e', '-'] else ['e', '+']
    let fraction := if count = 1 then [] else '.' :: digits.drop 1
    digits.take 1 ++ fraction ++ mark ++ digitsOf exponent.natAbs

/-- A floating-point number; one that is not finite is null. -/
def renderBinary64 : Binary64 → List Char
  | .notANumber => ['n', 'u', 'l', 'l']
  | .signed negative rank =>
    if rank.val = infinityRank then ['n', 'u', 'l', 'l']
    else
      let magnitude := renderDecimal (Binary64.shortestDecimal rank)
      if negative then '-' :: magnitude else magnitude

/-- A number. -/
def renderNumber : Number → List Char
  | .integer value => renderInteger value
  | .float value => renderBinary64 value

/-! ### Quoted text -/

/-- How one character is written inside quotes. -/
def escapeChar (letter : Char) : List Char :=
  if letter = '"' then ['\\', '"']
  else if letter = '\\' then ['\\', '\\']
  else if letter = '\x08' then ['\\', 'b']
  else if letter = '\x0c' then ['\\', 'f']
  else if letter = '\n' then ['\\', 'n']
  else if letter = '\r' then ['\\', 'r']
  else if letter = '\t' then ['\\', 't']
  else if letter.toNat < 0x20 then
    ['\\', 'u', '0', '0', Text.hexDigit (letter.toNat / 16), Text.hexDigit (letter.toNat % 16)]
  else [letter]

/-- A text in quotes. -/
def renderText (content : String) : List Char :=
  '"' :: (content.toList.flatMap escapeChar ++ ['"'])

/-! ### Values -/

mutual

/-- The text of a value, without blanks. -/
def Value.render : Value → List Char
  | .null => ['n', 'u', 'l', 'l']
  | .boolean true => ['t', 'r', 'u', 'e']
  | .boolean false => ['f', 'a', 'l', 's', 'e']
  | .number value => renderNumber value
  | .text content => renderText content
  | .array items => '[' :: Value.renderItems items
  | .object fields => '\x7b' :: Value.renderFields fields

/-- The rest of an array after its opening bracket. -/
def Value.renderItems : List Value → List Char
  | [] => [']']
  | [last] => last.render ++ [']']
  | item :: next :: rest => item.render ++ ',' :: Value.renderItems (next :: rest)

/-- The rest of an object after its opening brace. -/
def Value.renderFields : List (String × Value) → List Char
  | [] => ['\x7d']
  | [(key, part)] => renderText key ++ ':' :: part.render ++ ['\x7d']
  | (key, part) :: next :: rest =>
    renderText key ++ ':' :: part.render ++ ',' :: Value.renderFields (next :: rest)

end

/-- The JSON text of a value. -/
def Value.toText (value : Value) : String :=
  String.ofList value.render

end RepoVitals.Json

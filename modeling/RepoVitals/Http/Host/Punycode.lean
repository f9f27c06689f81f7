/-!
Punycode: texts of all scripts written with ASCII letters, digits and hyphens.

Owns:
- numbers of digits with thresholds that adapt to the text;
- the reading of an encoded text, one character at a time;
- the encoding of a text.

An encoded text begins with its ASCII characters and a hyphen.  The others follow in the order of
their code points, each as the number of places and code points that are passed over on the way to
it.
-/

namespace RepoVitals.Http.Host.Punycode

/-! ### Digits -/

/-- The value of a digit. -/
def digitValue? (letter : Char) : Option Nat :=
  let point := letter.toNat
  if 0x61 ≤ point ∧ point ≤ 0x7A then some (point - 0x61)
  else if 0x41 ≤ point ∧ point ≤ 0x5A then some (point - 0x41)
  else if 0x30 ≤ point ∧ point ≤ 0x39 then some (point - 0x30 + 26)
  else none

/-- The digit with a value. -/
def digit (value : Nat) : Char :=
  Char.ofNat (if value < 26 then 0x61 + value else 0x30 + value - 26)

/-- From which value on the digit at a place is not the last of its number; the places are 36, 72
and so on. -/
def threshold (place bias : Nat) : Nat :=
  if place ≤ bias then 1 else min 26 (place - bias)

theorem threshold_pos (place bias : Nat) : 0 < threshold place bias := by
  unfold threshold
  split <;> omega

theorem threshold_le (place bias : Nat) : threshold place bias ≤ 26 := by
  unfold threshold
  split <;> omega

/-- Divide by 35 until 455 is not exceeded; each division counts 36. -/
def halved (steps : Nat) (distance : Nat) : Nat × Nat :=
  if 455 < distance then halved (steps + 36) (distance / 35) else (steps, distance)
termination_by distance
decreasing_by omega

/-- The bias after a number, when the text has grown to `size` characters. -/
def adapt (first : Bool) (distance size : Nat) : Nat :=
  let damped := distance / if first then 700 else 2
  let (steps, rest) := halved 0 (damped + damped / size)
  steps + 36 * rest / (rest + 38)

/-! ### Reading -/

/-- A text that is being read. -/
structure Reader where
  /-- What has been read. -/
  letters : List Char
  /-- The code point and the place that the next number counts from. -/
  point : Nat
  place : Nat
  bias : Nat
  /-- The number that is being read: its value so far, what its next digit counts, and which digit
  that is. -/
  number : Nat
  weight : Nat
  step : Nat

namespace Reader

/-- No number and no product of weights exceeds this. -/
def limit : Nat := UInt32.size - 1

/-- Before the first number of a text with these ASCII characters. -/
def start (letters : List Char) : Reader := ⟨letters, 128, 0, 72, 0, 1, 36⟩

/-- The number is complete: put the letter that it leads to into its place. -/
def complete (reader : Reader) (number : Nat) : Option Reader :=
  let size := reader.letters.length + 1
  let sum := reader.place + number
  let point := reader.point + sum / size
  let place := sum % size
  if isScalar : point.isValidChar then
    some {
      letters := reader.letters.insertIdx place (Char.ofNatAux point isScalar)
      point := point
      place := place + 1
      bias := adapt (reader.place = 0) number size
      number := 0
      weight := 1
      step := 36 }
  else none

/-- Read one digit. -/
def next (reader : Reader) (letter : Char) : Option Reader := do
  let value ← digitValue? letter
  let number := reader.number + value * reader.weight
  let least := threshold reader.step reader.bias
  if limit < reader.place + number then none
  else if value < least then reader.complete number
  else
    let weight := reader.weight * (36 - least)
    if limit < weight then none
    else some { reader with number := number, weight := weight, step := reader.step + 36 }

end Reader

/-- The text that is encoded like this. -/
def decode? (letters : List Char) : Option (List Char) := do
  let reversedTail := letters.reverse.takeWhile (· ≠ '-')
  let front := letters.take (letters.length - reversedTail.length - 1)
  let digits := if front = [] then letters else reversedTail.reverse
  let reader ← digits.foldlM Reader.next (.start front)
  if reader.step = 36 then some reader.letters else none

/-! ### Encoding -/

/-- The digits of a number, from the given place on. -/
def digitsOf (bias place number : Nat) : List Char :=
  let least := threshold place bias
  if number < least then [digit number]
  else
    digit (least + (number - least) % (36 - least)) ::
      digitsOf bias (place + 36) ((number - least) / (36 - least))
termination_by number
decreasing_by
  have := threshold_pos place bias
  have := Nat.div_le_self (number - threshold place bias) (36 - threshold place bias)
  omega

/-- A text that is being encoded. -/
structure Writer where
  digits : List Char
  /-- How many places and code points have been passed over since the last letter. -/
  passed : Nat
  bias : Nat
  /-- How many letters have been written. -/
  written : Nat

/-- Pass over a letter, or write it if it has the given code point. -/
def Writer.pass (point : Nat) (writer : Writer) (letter : Char) : Writer :=
  if letter.toNat < point then { writer with passed := writer.passed + 1 }
  else if letter.toNat = point then
    { digits := writer.digits ++ digitsOf writer.bias 36 writer.passed
      passed := 0
      bias := adapt (writer.digits = []) writer.passed (writer.written + 1)
      written := writer.written + 1 }
  else writer

/-- Write the letters with each of the given code points, which ascend; all smaller ones than
`point` have been written. -/
def Writer.write (letters : List Char) (point : Nat) (writer : Writer) : List Nat → Writer
  | [] => writer
  | next :: rest =>
    let skipped := { writer with passed := writer.passed + (next - point) * (writer.written + 1) }
    let done := letters.foldl (pass next) skipped
    write letters (next + 1) { done with passed := done.passed + 1 } rest

/-- The encoded text. -/
def encode (letters : List Char) : List Char :=
  let plain := letters.filter (fun letter => letter.toNat < 0x80)
  let points := ((letters.map Char.toNat).filter (0x80 ≤ ·)).mergeSort.eraseDups
  let writer := Writer.write letters 128 ⟨[], 0, 72, plain.length⟩ points
  plain ++ (if plain = [] then [] else ['-']) ++ writer.digits

end RepoVitals.Http.Host.Punycode

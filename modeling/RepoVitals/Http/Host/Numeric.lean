import RepoVitals.Text.Numeral
/-!
Numeric hosts: addresses of four bytes, and addresses of eight pairs of bytes.

Owns:
- the reading of four bytes, written as up to four numbers with dots between them, of which the last
  one fills all bytes that are left;
- the reading of eight pairs, where one run of zeros may be left out and the last four bytes may be
  written with dots;
- both as texts.
-/

namespace RepoVitals.Http.Host

/-- Cut letters at every separator. -/
def splitAt (separator : Char) (letters : List Char) : List (List Char) :=
  letters.foldr
    (fun letter parts =>
      if letter = separator then [] :: parts
      else
        match parts with
        | part :: rest => (letter :: part) :: rest
        | [] => [[letter]])
    [[]]

/-- The number that digits to a base stand for. -/
def number? (base : Nat) (digits : List Char) : Option Nat :=
  digits.foldlM
    (fun value digit => do
      let own ← Text.hexValue? digit
      if own < base then some (base * value + own) else none)
    0

/-! ### Four bytes -/

/-- A number in an address: to base 16 behind `0x`, to base 8 behind a zero, otherwise to base
10. -/
def part? : List Char → Option Nat
  | [] => none
  | '0' :: 'x' :: digits | '0' :: 'X' :: digits => number? 16 digits
  | '0' :: digit :: digits => number? 8 (digit :: digits)
  | digits => number? 10 digits

/-- The parts of a name, without an empty one at its end. -/
def partsOf (letters : List Char) : List (List Char) :=
  let parts := splitAt '.' letters
  if parts.getLast? = some [] then parts.dropLast else parts

/-- The last part of the name is a number, so that the name can only be an address. -/
def endsInNumber (letters : List Char) : Bool :=
  match (partsOf letters).getLast? with
  | some last => (last ≠ [] && last.all Char.isDigit) || (part? last).isSome
  | none => false

/-- The address that a name stands for. -/
def fourBytes? (letters : List Char) : Option Nat := do
  let numbers ← (partsOf letters).mapM part?
  let last ← numbers.getLast?
  let front := numbers.dropLast
  if 3 < front.length ∨ front.any (255 < ·) ∨ Nat.pow 256 (4 - front.length) ≤ last then none
  else
    some (front.foldl (fun value byte => 256 * value + byte) 0 *
      Nat.pow 256 (4 - front.length) + last)

/-- Four bytes with dots between them. -/
def fourBytesText (value : Nat) : List Char :=
  ['.'].intercalate
    ([16777216, 65536, 256, 1].map (fun unit => Nat.toDigits 10 (value / unit % 256)))

/-! ### Eight pairs -/

/-- A byte with dots around it: without zeros in front. -/
def byte? (letters : List Char) : Option Nat := do
  if letters = [] ∨ (letters.head? = some '0' ∧ letters ≠ ['0']) then none
  else
    let value ← number? 10 letters
    if value ≤ 255 then some value else none

/-- The pairs that a group stands for.  Four bytes with dots are two pairs; they may come last
only. -/
def pairs? (isLast : Bool) (group : List Char) : Option (List Nat) :=
  if group.contains '.' then
    match (splitAt '.' group).mapM byte? with
    | some [first, second, third, fourth] =>
      if isLast then some [256 * first + second, 256 * third + fourth] else none
    | _ => none
  else if group = [] ∨ 4 < group.length then none
  else (number? 16 group).map ([·])

/-- The pairs of groups with colons between them. -/
def groupPairs? (mayEndInBytes : Bool) : List (List Char) → Option (List Nat)
  | [] => some []
  | [group] => pairs? mayEndInBytes group
  | group :: rest => do some ((← pairs? false group) ++ (← groupPairs? mayEndInBytes rest))

/-- The pairs of letters, which may be none at all. -/
def run? (mayEndInBytes : Bool) (letters : List Char) : Option (List Nat) :=
  if letters = [] then some [] else groupPairs? mayEndInBytes (splitAt ':' letters)

/-- Cut letters at the first two colons in a row. -/
def cutAtGap : List Char → Option (List Char × List Char)
  | ':' :: ':' :: rest => some ([], rest)
  | letter :: rest => (cutAtGap rest).map (fun halves => (letter :: halves.1, halves.2))
  | [] => none

/-- The address that the letters between brackets stand for.  Two colons in a row stand for at least
one pair of zeros. -/
def eightPairs? (letters : List Char) : Option (List Nat) :=
  match cutAtGap letters with
  | none => do
    let pairs ← run? true letters
    if pairs.length = 8 then some pairs else none
  | some (front, back) => do
    let first ← run? false front
    let last ← run? true back
    if first.length + last.length < 8 then
      some (first ++ List.replicate (8 - first.length - last.length) 0 ++ last)
    else none

/-- An address in brackets has eight pairs. -/
theorem length_of_eightPairs? (letters : List Char) (pairs : List Nat)
    (read : eightPairs? letters = some pairs) : pairs.length = 8 := by
  unfold eightPairs? at read
  split at read
  · simp only [Option.bind_eq_bind, Option.bind_eq_some_iff] at read
    obtain ⟨all, _, chosen⟩ := read
    split at chosen
    · simp_all
    · simp at chosen
  · simp only [Option.bind_eq_bind, Option.bind_eq_some_iff] at read
    obtain ⟨first, _, last, _, chosen⟩ := read
    split at chosen
    · cases chosen
      simp only [List.length_append, List.length_replicate]
      omega
    · simp at chosen

/-- The number of zeros at the front. -/
def leadingZeros (pairs : List Nat) : Nat := (pairs.takeWhile (· = 0)).length

/-- The place and the length of the longest run of zeros, the first of several; `place` is the place
of the first pair. -/
def longestZeros (place : Nat) : List Nat → Nat × Nat
  | [] => (place, 0)
  | pair :: rest =>
    let own := leadingZeros (pair :: rest)
    let later := longestZeros (place + 1) rest
    if later.2 ≤ own then (place, own) else later

/-- Pairs with colons between them. -/
def pairsText (pairs : List Nat) : List Char :=
  [':'].intercalate (pairs.map (Nat.toDigits 16))

/-- Eight pairs as a text; a run of two zeros or more is left out. -/
def eightPairsText (pairs : List Nat) : List Char :=
  let (place, length) := longestZeros 0 pairs
  if length < 2 then pairsText pairs
  else pairsText (pairs.take place) ++ [':', ':'] ++ pairsText (pairs.drop (place + length))

end RepoVitals.Http.Host

import Mathlib.Data.List.Basic
import RepoVitals.Json.Printer
/-!
Numerals: their letters, and integers that are written and read.

Owns:
- the letters of a numeral, which read back as the numeral if it is well formed;
- `number?_ofInteger`: an integer of 64 bits, signed or unsigned, is read as itself.
-/

namespace RepoVitals.Json

open Binary64 (naturalOfDigits)

/-! ### Runs of digits -/

/-- The list does not go on with a digit. -/
def EndsDigits (letters : List Char) : Prop :=
  ∀ letter ∈ letters.head?, letter.isDigit = false

theorem takeWhile_digits
    {digits rest : List Char}
    (areDigits : ∀ digit ∈ digits, digit.isDigit = true)
    (ends : EndsDigits rest) :
    (digits ++ rest).takeWhile Char.isDigit = digits ∧
      (digits ++ rest).dropWhile Char.isDigit = rest := by
  induction digits with
  | nil =>
    cases rest with
    | nil => exact ⟨rfl, rfl⟩
    | cons letter rest =>
      have noDigit : letter.isDigit = false := ends letter rfl
      simp [noDigit]
  | cons digit digits inductionHypothesis =>
    have isDigit := areDigits digit List.mem_cons_self
    have tail := inductionHypothesis (fun other member =>
      areDigits other (List.mem_cons_of_mem _ member))
    simp [isDigit, tail]

theorem isDigit_of_mem_digitsOf {value : Nat} {letter : Char} (member : letter ∈ digitsOf value) :
    letter.isDigit = true :=
  Nat.isDigit_of_mem_toDigits (by decide) (by decide) member

theorem naturalOfDigits_digitsOf (value : Nat) : naturalOfDigits (digitsOf value) = value :=
  Nat.ofDigitChars_ten_toDigits

theorem digitsOf_ne_nil (value : Nat) : digitsOf value ≠ [] :=
  List.ne_nil_of_length_pos Nat.length_toDigits_pos

theorem digitsOf_eq (value : Nat) :
    digitsOf value =
      if value < 10 then [value.digitChar] else digitsOf (value / 10) ++ [(value % 10).digitChar] :=
  Nat.toDigits_eq_if (by decide)

/-- A positive number does not start with a zero. -/
theorem head?_digitsOf {value : Nat} (positive : 0 < value) :
    (digitsOf value).head? ≠ some '0' := by
  induction value using Nat.strongRecOn with
  | ind value inductionHypothesis =>
    rw [digitsOf_eq]
    split
    · rename_i small
      have nonzero : ∀ digit, digit < 10 → 0 < digit → digit.digitChar ≠ '0' := by decide
      simpa using nonzero value small positive
    · rename_i large
      rw [List.head?_append_of_ne_nil _ (digitsOf_ne_nil _)]
      apply inductionHypothesis
      · omega
      · omega

/-! ### Letters -/

namespace Numeral

/-- The letters of an exponent. -/
def exponentLetters : Option (Bool × List Char) → List Char
  | none => []
  | some (negative, digits) => 'e' :: (if negative then '-' else '+') :: digits

/-- The letters of a numeral after its sign. -/
def unsignedLetters (numeral : Numeral) : List Char :=
  numeral.whole ++ ((if numeral.fraction = [] then [] else '.' :: numeral.fraction) ++
    exponentLetters numeral.exponent)

/-- The letters of a numeral. -/
def letters (numeral : Numeral) : List Char :=
  if numeral.negative then '-' :: numeral.unsignedLetters else numeral.unsignedLetters

/-- What the grammar asks of the parts of a numeral. -/
structure WellFormed (numeral : Numeral) : Prop where
  some : numeral.whole ≠ []
  whole : ∀ digit ∈ numeral.whole, digit.isDigit = true
  noNeedlessZero : numeral.whole.head? = Option.some '0' → numeral.whole.length = 1
  fraction : ∀ digit ∈ numeral.fraction, digit.isDigit = true
  exponent : ∀ found ∈ numeral.exponent,
    found.2 ≠ [] ∧ ∀ digit ∈ found.2, digit.isDigit = true

variable {numeral : Numeral}

theorem endsDigits_exponentLetters (exponent : Option (Bool × List Char)) :
    EndsDigits (exponentLetters exponent) := by
  cases exponent with
  | none => simp [EndsDigits, exponentLetters]
  | some found =>
    intro letter isHead
    rw [exponentLetters, List.head?_cons, Option.mem_some_iff] at isHead
    rw [← isHead]
    decide

theorem exponentOfLetters?_exponentLetters (wellFormed : numeral.WellFormed) :
    exponentOfLetters? (exponentLetters numeral.exponent) = some numeral.exponent := by
  have parts := wellFormed.exponent
  cases isExponent : numeral.exponent with
  | none => rfl
  | some found =>
    obtain ⟨negative, digits⟩ := found
    obtain ⟨some, areDigits⟩ := parts (negative, digits) isExponent
    have allDigits : digits.all Char.isDigit = true := List.all_eq_true.mpr areDigits
    cases negative <;>
      simp [exponentLetters, exponentOfLetters?, Binary64.takeSign, allDigits, some]

theorem head?_unsignedLetters (wellFormed : numeral.WellFormed) :
    numeral.unsignedLetters.head? ≠ some '-' := by
  rw [unsignedLetters, List.head?_append_of_ne_nil _ wellFormed.some]
  intro isMinus
  have isDigit := wellFormed.whole '-' (List.mem_of_head? isMinus)
  exact absurd isDigit (by decide)

/-- The letters of a well-formed numeral read back as the numeral. -/
theorem ofLetters?_letters (wellFormed : numeral.WellFormed) :
    ofLetters? numeral.letters = some numeral := by
  have noMinus := head?_unsignedLetters wellFormed
  have sign : decide (numeral.letters.head? = some '-') = numeral.negative := by
    rw [letters]
    cases numeral.negative with
    | true => rfl
    | false => exact decide_eq_false noMinus
  have unsigned : (if numeral.letters.head? = some '-' then numeral.letters.drop 1
      else numeral.letters) = numeral.unsignedLetters := by
    rw [letters]
    cases numeral.negative with
    | true => rfl
    | false => exact if_neg noMinus
  have exponent := exponentOfLetters?_exponentLetters wellFormed
  have ends : EndsDigits ((if numeral.fraction = [] then [] else '.' :: numeral.fraction) ++
      exponentLetters numeral.exponent) := by
    split
    · exact endsDigits_exponentLetters _
    · intro letter isHead
      rw [List.cons_append, List.head?_cons, Option.mem_some_iff] at isHead
      rw [← isHead]
      decide
  have wholeDigits := takeWhile_digits wellFormed.whole ends
  have isPlain : ¬(numeral.whole = [] ∨
      (numeral.whole.head? = some '0' ∧ numeral.whole.length ≠ 1)) := by
    intro refused
    rcases refused with isNil | needless
    · exact wellFormed.some isNil
    · exact needless.2 (wellFormed.noNeedlessZero needless.1)
  unfold ofLetters?
  simp only [sign, unsigned]
  rw [unsignedLetters, wholeDigits.1, wholeDigits.2, if_neg isPlain]
  by_cases noFraction : numeral.fraction = []
  · rw [if_pos noFraction, List.nil_append]
    split
    · rename_i isPoint
      cases isExponent : numeral.exponent with
      | none => simp [isExponent, exponentLetters] at isPoint
      | some found => simp [isExponent, exponentLetters] at isPoint
    · rw [exponent, ← noFraction]
      rfl
  · have fractionDigits :=
      takeWhile_digits wellFormed.fraction (endsDigits_exponentLetters numeral.exponent)
    rw [if_neg noFraction]
    simp only [List.cons_append, fractionDigits.1, fractionDigits.2, exponent, noFraction,
      Option.bind_eq_bind, Option.bind_some, if_false]

/-! ### Integers -/

/-- The numeral of an integer. -/
def ofInteger (value : Int) : Numeral where
  negative := value < 0
  whole := digitsOf value.natAbs
  fraction := []
  exponent := none

theorem letters_ofInteger (value : Int) : (ofInteger value).letters = renderInteger value := by
  unfold letters unsignedLetters renderInteger ofInteger exponentLetters
  by_cases negative : value < 0 <;> simp [negative]

theorem wellFormed_ofInteger (value : Int) : (ofInteger value).WellFormed where
  some := digitsOf_ne_nil _
  whole := fun _ member => isDigit_of_mem_digitsOf member
  noNeedlessZero := by
    intro startsWithZero
    rcases Nat.eq_zero_or_pos value.natAbs with isZero | positive
    · rw [ofInteger, isZero]
      rfl
    · exact absurd startsWithZero (head?_digitsOf positive)
  fraction := by simp [ofInteger]
  exponent := by simp [ofInteger]

theorem ofInteger_injective : Function.Injective ofInteger := by
  intro first second same
  have sign : decide (first < 0) = decide (second < 0) := congrArg negative same
  have magnitude : first.natAbs = second.natAbs := by
    have digits : digitsOf first.natAbs = digitsOf second.natAbs := congrArg whole same
    rw [← naturalOfDigits_digitsOf first.natAbs, digits, naturalOfDigits_digitsOf]
  have signs : first < 0 ↔ second < 0 := decide_eq_decide.mp sign
  omega

/-- An integer of 64 bits is read as itself. -/
theorem number?_ofInteger
    {value : Int}
    (atLeast : Binary64.leastInt64 ≤ value)
    (atMost : value ≤ greatestUInt64) :
    (ofInteger value).number? = some (.integer value) := by
  have magnitude : naturalOfDigits (ofInteger value).whole = value.natAbs :=
    naturalOfDigits_digitsOf _
  unfold number?
  rw [magnitude]
  by_cases negative : value < 0
  · have inside : value.natAbs ≤ UInt64.size / 2 := by
      have : Binary64.leastInt64 = -9223372036854775808 := rfl
      have : UInt64.size / 2 = 9223372036854775808 := rfl
      omega
    have positive : 0 < value.natAbs := by omega
    have isValue : -(value.natAbs : Int) = value := by omega
    rw [if_neg (by simp [ofInteger, negative]),
      if_pos ⟨by simp [ofInteger], by simp [ofInteger, negative], positive, inside⟩, isValue]
  · have inside : value.natAbs ≤ greatestUInt64 := by omega
    have isValue : (value.natAbs : Int) = value := by omega
    rw [if_pos ⟨by simp [ofInteger], by simp [ofInteger, negative], inside⟩, isValue]

end Numeral

end RepoVitals.Json

import RepoVitals.Proofs.Binary64.Overflow
import RepoVitals.Proofs.Json.Numeral
/-!
Spellings: the texts that are read as numbers.

Owns:
- unsigned decimals in their parts, with their letters and their value;
- `Names`: the words and the decimals, and the number that each of them names;
- `ofText?_eq_some_iff`: a text is read as a number exactly if it is a sign and one of these;
- `exists_not_isFinite_iff`: which texts are read as a number that is not finite.
-/

namespace RepoVitals.Binary64

open Json (EndsDigits takeWhile_digits)

/-! ### Signs -/

/-- The letters of a sign: none, plus or minus. -/
def signLetters : Option Bool → List Char
  | none => []
  | some false => ['+']
  | some true => ['-']

theorem takeSign_spec (letters : List Char) :
    ∃ sign, letters = signLetters sign ++ (takeSign letters).2 ∧
      (takeSign letters).1 = sign.getD false := by
  unfold takeSign
  split
  · exact ⟨some true, rfl, rfl⟩
  · exact ⟨some false, rfl, rfl⟩
  · exact ⟨none, rfl, rfl⟩

theorem takeSign_signLetters
    {rest : List Char}
    (noSign : ∀ letter ∈ rest.head?, letter ≠ '-' ∧ letter ≠ '+')
    (sign : Option Bool) :
    takeSign (signLetters sign ++ rest) = (sign.getD false, rest) := by
  cases sign with
  | some negative => cases negative <;> rfl
  | none =>
    unfold signLetters takeSign
    rw [List.nil_append]
    split
    · exact absurd rfl (noSign '-' rfl).1
    · exact absurd rfl (noSign '+' rfl).2
    · rfl

theorem noSign_of_digits
    {digits : List Char}
    (areDigits : digits.all Char.isDigit = true) :
    ∀ letter ∈ digits.head?, letter ≠ '-' ∧ letter ≠ '+' := by
  intro letter isHead
  have isDigit := List.all_eq_true.mp areDigits letter (List.mem_of_head? isHead)
  constructor
  · rintro rfl
    exact absurd isDigit (by decide)
  · rintro rfl
    exact absurd isDigit (by decide)

/-! ### Unsigned decimals -/

/-- The mark, the sign and the digits of an exponent. -/
structure ExponentPart where
  mark : Char
  sign : Option Bool
  digits : List Char

namespace ExponentPart

/-- The letters of an exponent. -/
def letters (part : ExponentPart) : List Char :=
  part.mark :: (signLetters part.sign ++ part.digits)

/-- The exponent. -/
def value (part : ExponentPart) : Int :=
  if part.sign.getD false then -(naturalOfDigits part.digits : Int) else naturalOfDigits part.digits

/-- An `e` in either case, and digits. -/
structure WellFormed (part : ExponentPart) : Prop where
  mark : part.mark = 'e' ∨ part.mark = 'E'
  some : part.digits ≠ []
  digits : part.digits.all Char.isDigit = true

end ExponentPart

/-- An unsigned decimal: the digits before the point, those after it if there is a point, and the
exponent if there is one. -/
structure Spelling where
  whole : List Char
  fraction : Option (List Char)
  exponent : Option ExponentPart

namespace Spelling

/-- The letters of a fraction with its point. -/
def fractionLetters : Option (List Char) → List Char
  | none => []
  | some digits => '.' :: digits

/-- The letters of an exponent that may be left out. -/
def exponentLetters (exponent : Option ExponentPart) : List Char :=
  (exponent.map ExponentPart.letters).getD []

/-- The exponent, which is zero if it is left out. -/
def exponentValue (exponent : Option ExponentPart) : Int :=
  (exponent.map ExponentPart.value).getD 0

/-- The letters of a decimal. -/
def letters (spelling : Spelling) : List Char :=
  spelling.whole ++ (fractionLetters spelling.fraction ++ exponentLetters spelling.exponent)

/-- All digits as one integer. -/
def significand (spelling : Spelling) : Nat :=
  naturalOfDigits (spelling.whole ++ spelling.fraction.getD [])

/-- The power of ten of the last digit. -/
def place (spelling : Spelling) : Int :=
  exponentValue spelling.exponent - (spelling.fraction.getD []).length

/-- The value of a decimal. -/
def value (spelling : Spelling) : ℚ := spelling.significand * 10 ^ spelling.place

/-- There are digits on at least one side of the point. -/
structure WellFormed (spelling : Spelling) : Prop where
  some : ¬(spelling.whole = [] ∧ spelling.fraction.getD [] = [])
  whole : spelling.whole.all Char.isDigit = true
  fraction : (spelling.fraction.getD []).all Char.isDigit = true
  exponent : ∀ part ∈ spelling.exponent, part.WellFormed

end Spelling

/-! ### Reading the parts -/

open Spelling (exponentLetters exponentValue fractionLetters)

theorem exponentPart?_exponentLetters
    {exponent : Option ExponentPart}
    (wellFormed : ∀ part ∈ exponent, part.WellFormed) :
    exponentPart? (exponentLetters exponent) = some (exponentValue exponent) := by
  cases exponent with
  | none => rfl
  | some part =>
    obtain ⟨mark, nonempty, digits⟩ := wellFormed part rfl
    show exponentPart? (part.mark :: (signLetters part.sign ++ part.digits)) = some part.value
    unfold exponentPart?
    dsimp only
    rw [if_pos mark, takeSign_signLetters (noSign_of_digits digits)]
    dsimp only
    rw [if_pos ⟨nonempty, digits⟩]
    rfl

theorem exists_of_exponentPart?
    {letters : List Char}
    {value : Int}
    (isRead : exponentPart? letters = some value) :
    ∃ exponent : Option ExponentPart, (∀ part ∈ exponent, part.WellFormed) ∧
      letters = exponentLetters exponent ∧ value = exponentValue exponent := by
  cases letters with
  | nil =>
    cases isRead
    refine ⟨none, ?_, rfl, rfl⟩
    rintro part ⟨⟩
  | cons mark rest =>
    obtain ⟨sign, areLetters, isNegative⟩ := takeSign_spec rest
    unfold exponentPart? at isRead
    dsimp only at isRead
    split at isRead
    · rename_i isMark
      split at isRead
      · rename_i digits
        cases isRead
        refine ⟨some ⟨mark, sign, (takeSign rest).2⟩, ?_, ?_, ?_⟩
        · intro part isPart
          cases isPart
          exact ⟨isMark, digits.1, digits.2⟩
        · show mark :: rest = mark :: (signLetters sign ++ (takeSign rest).2)
          rw [← areLetters]
        · show _ = ExponentPart.value ⟨mark, sign, (takeSign rest).2⟩
          rw [ExponentPart.value, isNegative]
      · cases isRead
    · cases isRead

theorem endsDigits_exponentLetters
    {exponent : Option ExponentPart}
    (wellFormed : ∀ part ∈ exponent, part.WellFormed) :
    EndsDigits (exponentLetters exponent) := by
  intro letter isHead
  cases exponent with
  | none => cases isHead
  | some part =>
    cases isHead
    rcases (wellFormed part rfl).mark with isMark | isMark <;> rw [isMark] <;> decide

theorem unsignedDecimal?_letters
    {spelling : Spelling}
    (wellFormed : spelling.WellFormed)
    (negative : Bool) :
    unsignedDecimal? negative spelling.letters =
      some (ofDecimal negative spelling.significand spelling.place) := by
  obtain ⟨whole, fraction, exponent⟩ := spelling
  obtain ⟨nonempty, wholeDigits, fractionDigits, exponentFormed⟩ := wellFormed
  have ends := endsDigits_exponentLetters exponentFormed
  have readExponent := exponentPart?_exponentLetters exponentFormed
  have areWhole := List.all_eq_true.mp wholeDigits
  unfold unsignedDecimal? Spelling.letters Spelling.significand Spelling.place
  dsimp only at *
  cases fraction with
  | none =>
    have cut := takeWhile_digits areWhole ends
    rw [fractionLetters, List.nil_append, cut.1, cut.2]
    have noPoint : ∀ rest, exponentLetters exponent ≠ '.' :: rest := by
      intro rest same
      cases exponent with
      | none => cases same
      | some part =>
        have isPoint : part.mark = '.' := (List.cons.inj same).1
        rcases (exponentFormed part rfl).mark with isMark | isMark <;>
          exact absurd (isMark.symm.trans isPoint) (by decide)
    split
    · rename_i isPoint
      exact absurd isPoint (noPoint _)
    · rw [Option.getD_none] at nonempty ⊢
      dsimp only
      rw [List.append_nil, if_neg nonempty, readExponent]
      rfl
  | some digits =>
    have cut : (whole ++ ('.' :: digits ++ exponentLetters exponent)).takeWhile Char.isDigit =
        whole ∧ (whole ++ ('.' :: digits ++ exponentLetters exponent)).dropWhile Char.isDigit =
        '.' :: digits ++ exponentLetters exponent :=
      takeWhile_digits areWhole (fun letter isHead => by cases isHead; rfl)
    have cutFraction := takeWhile_digits (List.all_eq_true.mp fractionDigits) ends
    rw [Option.getD_some] at cutFraction nonempty
    rw [fractionLetters, cut.1, cut.2, List.cons_append, Option.getD_some]
    simp only [cutFraction.1, cutFraction.2, if_neg nonempty, readExponent]
    rfl

theorem exists_of_unsignedDecimal?
    {negative : Bool}
    {letters : List Char}
    {number : Binary64}
    (isRead : unsignedDecimal? negative letters = some number) :
    ∃ spelling : Spelling, spelling.WellFormed ∧ letters = spelling.letters ∧
      number = ofDecimal negative spelling.significand spelling.place := by
  have whole : (letters.takeWhile Char.isDigit).all Char.isDigit = true := List.all_takeWhile
  have cut := List.takeWhile_append_dropWhile (p := Char.isDigit) (l := letters)
  unfold unsignedDecimal? at isRead
  dsimp only at isRead
  generalize letters.takeWhile Char.isDigit = wholeDigits at *
  generalize letters.dropWhile Char.isDigit = rest at *
  split at isRead
  · rename_i afterPoint
    have fraction : (afterPoint.takeWhile Char.isDigit).all Char.isDigit = true :=
      List.all_takeWhile
    have cutFraction := List.takeWhile_append_dropWhile (p := Char.isDigit) (l := afterPoint)
    dsimp only at isRead
    generalize afterPoint.takeWhile Char.isDigit = fractionDigits at *
    generalize afterPoint.dropWhile Char.isDigit = afterFraction at *
    split at isRead
    · cases isRead
    · rename_i nonempty
      obtain ⟨exponent, isExponent, isNumber⟩ := Option.bind_eq_some_iff.mp isRead
      obtain ⟨part, formed, areLetters, isValue⟩ := exists_of_exponentPart? isExponent
      refine ⟨⟨wholeDigits, some fractionDigits, part⟩, ⟨nonempty, whole, fraction, formed⟩, ?_, ?_⟩
      · rw [← cut, ← cutFraction, areLetters]
        rfl
      · rw [← Option.some.inj isNumber, isValue]
        rfl
  · dsimp only at isRead
    split at isRead
    · cases isRead
    · rename_i nonempty
      obtain ⟨exponent, isExponent, isNumber⟩ := Option.bind_eq_some_iff.mp isRead
      obtain ⟨part, formed, areLetters, isValue⟩ := exists_of_exponentPart? isExponent
      refine ⟨⟨wholeDigits, none, part⟩, ⟨nonempty, whole, rfl, formed⟩, ?_, ?_⟩
      · rw [← cut, areLetters]
        rfl
      · rw [← Option.some.inj isNumber, isValue]
        rfl

/-! ### Words and decimals -/

/-- The words for infinity, in any case. -/
def IsInfinityWord (word : List Char) : Prop :=
  word.map Char.toLower = ['i', 'n', 'f'] ∨
    word.map Char.toLower = ['i', 'n', 'f', 'i', 'n', 'i', 't', 'y']

/-- The word for NaN, in any case. -/
def IsNaNWord (word : List Char) : Prop := word.map Char.toLower = ['n', 'a', 'n']

/-- The letters without their sign name this number. -/
inductive Names (negative : Bool) : List Char → Binary64 → Prop
  | infinity {word : List Char} (isWord : IsInfinityWord word) :
      Names negative word (ofRank negative infinityRank)
  | notANumber {word : List Char} (isWord : IsNaNWord word) : Names negative word .notANumber
  | decimal {spelling : Spelling} (wellFormed : spelling.WellFormed) :
      Names negative spelling.letters (ofDecimal negative spelling.significand spelling.place)

/-- The first letter of a word starts the word in lower case. -/
theorem exists_cons_of_word
    {word : List Char}
    {first : Char}
    {rest : List Char}
    (isWord : word.map Char.toLower = first :: rest) :
    ∃ letter more, word = letter :: more ∧ letter.toLower = first := by
  cases word with
  | nil => cases isWord
  | cons letter more => exact ⟨letter, more, rfl, (List.cons.inj isWord).1⟩

/-- The first letter of a decimal is a digit or the point. -/
theorem exists_cons_letters {spelling : Spelling} (wellFormed : spelling.WellFormed) :
    ∃ letter more, spelling.letters = letter :: more ∧ (letter.isDigit = true ∨ letter = '.') := by
  obtain ⟨whole, fraction, exponent⟩ := spelling
  obtain ⟨nonempty, wholeDigits, -, -⟩ := wellFormed
  cases whole with
  | cons letter more =>
    exact ⟨letter, _, rfl, Or.inl (List.all_eq_true.mp wholeDigits letter List.mem_cons_self)⟩
  | nil =>
    cases fraction with
    | none => exact absurd ⟨rfl, rfl⟩ nonempty
    | some digits => exact ⟨'.', _, rfl, Or.inr rfl⟩

theorem toLower_of_isDigit {letter : Char} (isDigit : letter.isDigit = true) :
    letter.toLower = letter := by
  unfold Char.toLower
  rw [dif_neg]
  intro isUpper
  have atMost : letter.val ≤ '9'.val := by
    simp only [Char.isDigit, Bool.and_eq_true, decide_eq_true_eq] at isDigit
    exact isDigit.2
  exact absurd (UInt32.le_trans isUpper.1 atMost) (by decide)

/-- What names a number does not start with a sign. -/
theorem Names.noSign
    {negative : Bool}
    {letters : List Char}
    {number : Binary64}
    (names : Names negative letters number) :
    ∀ letter ∈ letters.head?, letter ≠ '-' ∧ letter ≠ '+' := by
  have keeps : ∀ {word rest : List Char} {first : Char}, word.map Char.toLower = first :: rest →
      first ≠ '-' ∧ first ≠ '+' → ∀ letter ∈ word.head?, letter ≠ '-' ∧ letter ≠ '+' := by
    intro word rest first isWord differs letter isHead
    obtain ⟨_, _, rfl, isFirst⟩ := exists_cons_of_word isWord
    cases isHead
    constructor
    · rintro rfl
      exact differs.1 isFirst.symm
    · rintro rfl
      exact differs.2 isFirst.symm
  cases names with
  | infinity isWord => exact isWord.elim (keeps · (by decide)) (keeps · (by decide))
  | notANumber isWord => exact keeps isWord (by decide)
  | decimal wellFormed =>
    obtain ⟨first, more, areLetters, starts⟩ := exists_cons_letters wellFormed
    rw [areLetters]
    rintro letter ⟨⟩
    constructor
    · rintro rfl
      exact absurd starts (by decide)
    · rintro rfl
      exact absurd starts (by decide)

/-- A decimal is none of the words. -/
theorem not_word_of_wellFormed {spelling : Spelling} (wellFormed : spelling.WellFormed) :
    ¬IsInfinityWord spelling.letters ∧ ¬IsNaNWord spelling.letters := by
  obtain ⟨first, more, areLetters, starts⟩ := exists_cons_letters wellFormed
  have keeps : ∀ {initial : Char} {rest : List Char},
      spelling.letters.map Char.toLower = initial :: rest →
        initial.isDigit = true ∨ initial = '.' := by
    intro initial rest isWord
    rw [areLetters, List.map_cons] at isWord
    rw [← (List.cons.inj isWord).1]
    rcases starts with isDigit | rfl
    · rw [toLower_of_isDigit isDigit]
      exact Or.inl isDigit
    · exact Or.inr rfl
  constructor
  · rintro (isWord | isWord) <;> exact absurd (keeps isWord) (by decide)
  · intro isWord
    exact absurd (keeps isWord) (by decide)

/-! ### Texts -/

/-- A text is read as a number exactly if it is a sign, which may be left out, and a word or a
decimal that names the number. -/
theorem ofText?_eq_some_iff {text : String} {number : Binary64} :
    ofText? text = some number ↔
      ∃ sign rest, text.toList = signLetters sign ++ rest ∧
        Names (sign.getD false) rest number := by
  constructor
  · intro isRead
    obtain ⟨sign, areLetters, isNegative⟩ := takeSign_spec text.toList
    refine ⟨sign, _, areLetters, ?_⟩
    rw [← isNegative]
    unfold ofText? at isRead
    dsimp only at isRead
    split at isRead
    · rename_i isWord
      rw [← Option.some.inj isRead]
      exact .infinity isWord
    · split at isRead
      · rename_i isWord
        rw [← Option.some.inj isRead]
        exact .notANumber isWord
      · obtain ⟨spelling, wellFormed, isSpelled, isNumber⟩ := exists_of_unsignedDecimal? isRead
        rw [isSpelled, isNumber]
        exact .decimal wellFormed
  · rintro ⟨sign, rest, areLetters, names⟩
    unfold ofText?
    rw [areLetters, takeSign_signLetters names.noSign]
    dsimp only
    cases names with
    | infinity isWord => exact if_pos isWord
    | notANumber isWord =>
      have isNaN : rest.map Char.toLower = ['n', 'a', 'n'] := isWord
      rw [isNaN, if_neg (by decide), if_pos rfl]
    | decimal wellFormed =>
      obtain ⟨notInfinity, notNaN⟩ := not_word_of_wellFormed wellFormed
      unfold IsInfinityWord at notInfinity
      unfold IsNaNWord at notNaN
      rw [if_neg notInfinity, if_neg notNaN]
      exact unsignedDecimal?_letters wellFormed _

/-- After a sign, which may be left out, comes a word for infinity or NaN, or a decimal too large
for a finite number. -/
def SpellsBeyond (letters : List Char) : Prop :=
  ∃ sign rest, letters = signLetters sign ++ rest ∧
    (IsInfinityWord rest ∨ IsNaNWord rest ∨
      ∃ spelling : Spelling, spelling.WellFormed ∧ rest = spelling.letters ∧
        overflow ≤ spelling.value)

/-- Which texts are read as a number that is not finite. -/
theorem exists_not_isFinite_iff (text : String) :
    (∃ number, ofText? text = some number ∧ number.isFinite = false) ↔
      SpellsBeyond text.toList := by
  constructor
  · rintro ⟨number, isRead, notFinite⟩
    obtain ⟨sign, rest, areLetters, names⟩ := ofText?_eq_some_iff.mp isRead
    refine ⟨sign, rest, areLetters, ?_⟩
    cases names with
    | infinity isWord => exact Or.inl isWord
    | notANumber isWord => exact Or.inr (Or.inl isWord)
    | decimal wellFormed =>
      refine Or.inr (Or.inr ⟨_, wellFormed, rfl, ?_⟩)
      rw [← Bool.not_eq_true, isFinite_ofDecimal] at notFinite
      exact not_lt.mp notFinite
  · rintro ⟨sign, rest, areLetters, isWord | isWord | ⟨spelling, wellFormed, rfl, large⟩⟩
    · refine ⟨_, ofText?_eq_some_iff.mpr ⟨sign, rest, areLetters, .infinity isWord⟩, ?_⟩
      rw [← Bool.not_eq_true, isFinite_ofRank]
      exact lt_irrefl _
    · exact ⟨_, ofText?_eq_some_iff.mpr ⟨sign, rest, areLetters, .notANumber isWord⟩, rfl⟩
    · refine ⟨_, ofText?_eq_some_iff.mpr ⟨sign, _, areLetters, .decimal wellFormed⟩, ?_⟩
      rw [← Bool.not_eq_true, isFinite_ofDecimal]
      exact not_lt.mpr large

/-- The greatest finite number lies between the first two. -/
example :
    (["1.79e308", "1.8E+308", "-Infinity", "infinit"].map fun text =>
      (ofText? text).map isFinite) = [some true, some false, some false, none] := by
  decide +kernel

end RepoVitals.Binary64

import RepoVitals.Config.Reading
import RepoVitals.Proofs.Binary64.Spelling
import RepoVitals.Proofs.Config.Orderly
/-!
Values that stand for their own text.

Owns:
- the spellings of integers and of decimals with a point;
- the sizes of texts in quotes, and `Reader.Within`: whatever text comes out of quotes or brackets
  is shorter than what was read;
- `Mistaken`: the values that are read as something else than their own text;
- `readText_ofLiteral_iff`: a value without blanks around it is read as its own text exactly if it
  is not one of these.
-/

namespace RepoVitals.Config

open Binary64 (Spelling naturalOfDigits signLetters takeSign)

/-! ### Numbers -/

/-- An integer of 64 bits: a sign, which may be left out, and digits.  Without a minus sign it may
take all of them. -/
def SpellsInteger (letters : List Char) : Prop :=
  ∃ sign digits, letters = signLetters sign ++ digits ∧ digits ≠ [] ∧
    digits.all Char.isDigit = true ∧
      if sign.getD false then Binary64.leastInt64 ≤ -(naturalOfDigits digits : Int)
      else naturalOfDigits digits ≤ greatestUnsigned

/-- A decimal with a point, after a sign that may be left out. -/
def SpellsDecimal (letters : List Char) : Prop :=
  ∃ sign, ∃ spelling : Spelling, spelling.WellFormed ∧ spelling.fraction.isSome ∧
    letters = signLetters sign ++ spelling.letters

/-- A letter that numbers are written with. -/
def isNumberLetter (letter : Char) : Bool :=
  letter.isDigit || ['+', '-', '.', 'e', 'E'].contains letter

theorem isSome_literalInteger?_iff (letters : List Char) :
    (literalInteger? letters).isSome ↔ SpellsInteger letters := by
  constructor
  · intro isSome
    obtain ⟨sign, areLetters, isNegative⟩ := Binary64.takeSign_spec letters
    unfold literalInteger? at isSome
    dsimp only at isSome
    split at isSome
    · cases isSome
    · rename_i digits
      rw [not_or, Bool.not_eq_true, Bool.not_eq_false'] at digits
      refine ⟨sign, (takeSign letters).2, areLetters, digits.1, digits.2, ?_⟩
      rw [isNegative] at isSome
      split at isSome <;> rename_i isSign
      · rw [if_pos isSign]
        exact Option.isSome_ite.mp isSome
      · rw [if_neg isSign]
        exact Option.isSome_ite.mp isSome
  · rintro ⟨sign, digits, rfl, nonempty, areDigits, bound⟩
    unfold literalInteger?
    rw [Binary64.takeSign_signLetters (Binary64.noSign_of_digits areDigits)]
    dsimp only
    rw [if_neg (by simp [nonempty, areDigits])]
    split at bound <;> rename_i isSign
    · rw [if_pos isSign]
      exact Option.isSome_ite.mpr bound
    · rw [if_neg isSign]
      exact Option.isSome_ite.mpr bound

theorem isNumberLetter_of_isDigit {letter : Char} (isDigit : letter.isDigit = true) :
    isNumberLetter letter = true := by
  rw [isNumberLetter, isDigit, Bool.true_or]

theorem areNumberLetters_of_digits
    {digits : List Char}
    (areDigits : digits.all Char.isDigit = true) :
    ∀ letter ∈ digits, isNumberLetter letter = true :=
  fun letter member => isNumberLetter_of_isDigit (List.all_eq_true.mp areDigits letter member)

theorem areNumberLetters_sign (sign : Option Bool) :
    ∀ letter ∈ signLetters sign, isNumberLetter letter = true := by
  rcases sign with _ | _ | _
  · exact nofun
  · exact List.forall_mem_singleton.mpr rfl
  · exact List.forall_mem_singleton.mpr rfl

theorem areNumberLetters_spelling {spelling : Spelling} (wellFormed : spelling.WellFormed) :
    ∀ letter ∈ spelling.letters, isNumberLetter letter = true := by
  obtain ⟨whole, fraction, exponent⟩ := spelling
  obtain ⟨-, areWhole, areFraction, isExponent⟩ := wellFormed
  simp only [Spelling.letters, List.forall_mem_append]
  refine ⟨areNumberLetters_of_digits areWhole, ?_, ?_⟩
  · cases fraction with
    | none => exact nofun
    | some digits => exact List.forall_mem_cons.mpr ⟨rfl, areNumberLetters_of_digits areFraction⟩
  · cases exponent with
    | none => exact nofun
    | some part =>
      obtain ⟨isMark, -, areDigits⟩ := isExponent part rfl
      refine List.forall_mem_cons.mpr ⟨?_, List.forall_mem_append.mpr
        ⟨areNumberLetters_sign part.sign, areNumberLetters_of_digits areDigits⟩⟩
      rcases isMark with isMark | isMark <;> rw [isMark] <;> rfl

/-- A number starts with a sign, a digit or the point. -/
def StartsNumber (letters : List Char) : Prop :=
  ∃ first rest, letters = first :: rest ∧
    (first.isDigit = true ∨ first = '.' ∨ first = '+' ∨ first = '-')

theorem startsNumber_sign
    {rest : List Char}
    (starts : StartsNumber rest)
    (sign : Option Bool) :
    StartsNumber (signLetters sign ++ rest) := by
  rcases sign with _ | _ | _
  · exact starts
  · exact ⟨'+', rest, rfl, .inr (.inr (.inl rfl))⟩
  · exact ⟨'-', rest, rfl, .inr (.inr (.inr rfl))⟩

/-- The letters spell a number of one of the two kinds. -/
def SpellsNumber (letters : List Char) : Prop := SpellsInteger letters ∨ SpellsDecimal letters

theorem SpellsNumber.startsNumber {letters : List Char} :
    SpellsNumber letters → StartsNumber letters
  | .inl ⟨sign, digits, areLetters, nonempty, areDigits, _⟩ => by
    obtain ⟨first, rest, rfl⟩ := List.exists_cons_of_ne_nil nonempty
    have isDigit := List.all_eq_true.mp areDigits first List.mem_cons_self
    exact areLetters ▸ startsNumber_sign ⟨first, rest, rfl, .inl isDigit⟩ sign
  | .inr ⟨sign, spelling, wellFormed, _, areLetters⟩ => by
    obtain ⟨first, rest, isSpelling, starts⟩ := Binary64.exists_cons_letters wellFormed
    exact areLetters ▸ startsNumber_sign ⟨first, rest, isSpelling, starts.imp_right .inl⟩ sign

theorem SpellsNumber.areNumberLetters {letters : List Char} :
    SpellsNumber letters → ∀ letter ∈ letters, isNumberLetter letter = true
  | .inl ⟨sign, _, areLetters, _, areDigits, _⟩ => areLetters ▸
    List.forall_mem_append.mpr ⟨areNumberLetters_sign sign, areNumberLetters_of_digits areDigits⟩
  | .inr ⟨sign, _, wellFormed, _, areLetters⟩ => areLetters ▸
    List.forall_mem_append.mpr ⟨areNumberLetters_sign sign, areNumberLetters_spelling wellFormed⟩

theorem point_not_mem_of_digits
    {digits : List Char}
    (areDigits : digits.all Char.isDigit = true) :
    '.' ∉ digits :=
  fun isPoint => absurd (List.all_eq_true.mp areDigits '.' isPoint) (by decide)

theorem point_not_mem_sign (sign : Option Bool) : '.' ∉ signLetters sign := by
  rcases sign with _ | _ | _ <;> decide

/-- The point of a decimal stands in front of a fraction. -/
theorem point_not_mem_of_noFraction
    {spelling : Spelling}
    (wellFormed : spelling.WellFormed)
    (noFraction : spelling.fraction = none) :
    '.' ∉ spelling.letters := by
  obtain ⟨whole, _, exponent⟩ := spelling
  obtain rfl := noFraction
  intro isPoint
  rcases List.mem_append.mp isPoint with inWhole | inExponent
  · exact point_not_mem_of_digits wellFormed.whole inWhole
  · cases exponent with
    | none => cases inExponent
    | some part =>
      obtain ⟨isMark, -, areDigits⟩ := wellFormed.exponent part rfl
      rcases List.mem_cons.mp inExponent with same | later
      · rcases isMark with isMark | isMark <;> exact absurd (same.trans isMark) (by decide)
      · rcases List.mem_append.mp later with inSign | inDigits
        · exact point_not_mem_sign part.sign inSign
        · exact point_not_mem_of_digits areDigits inDigits

/-- A text with a point that is read as a number is a decimal with a point, and the other way
round. -/
theorem spellsDecimal_iff (letters : List Char) :
    SpellsDecimal letters ↔
      letters.contains '.' = true ∧ (Binary64.ofText? (String.ofList letters)).isSome := by
  constructor
  · rintro ⟨sign, spelling, wellFormed, hasPoint, rfl⟩
    obtain ⟨digits, isFraction⟩ := Option.isSome_iff_exists.mp hasPoint
    have isRead := Binary64.ofText?_eq_some_iff.mpr
      ⟨sign, spelling.letters, String.toList_ofList, .decimal wellFormed⟩
    refine ⟨?_, Option.isSome_of_eq_some isRead⟩
    simp [Spelling.letters, isFraction, Spelling.fractionLetters]
  · rintro ⟨hasPoint, isSome⟩
    obtain ⟨number, isRead⟩ := Option.isSome_iff_exists.mp isSome
    obtain ⟨sign, rest, areLetters, names⟩ := Binary64.ofText?_eq_some_iff.mp isRead
    rw [String.toList_ofList] at areLetters
    have isPoint : '.' ∈ rest := by
      rw [List.contains_eq_mem, decide_eq_true_eq, areLetters] at hasPoint
      exact (List.mem_append.mp hasPoint).resolve_left (point_not_mem_sign sign)
    have noWord : ∀ word : List Char, '.' ∉ word → rest.map Char.toLower ≠ word := by
      rintro _ noPoint rfl
      exact noPoint (List.mem_map_of_mem isPoint)
    cases names with
    | infinity isWord =>
      exact isWord.elim (absurd · (noWord _ (by decide))) (absurd · (noWord _ (by decide)))
    | notANumber isWord => exact absurd isWord (noWord _ (by decide))
    | @decimal spelling wellFormed =>
      refine ⟨sign, spelling, wellFormed, ?_, areLetters⟩
      by_contra noFraction
      exact point_not_mem_of_noFraction wellFormed (Option.not_isSome_iff_eq_none.mp noFraction)
        isPoint

/-- A plain literal is read as its text, unless it spells a number. -/
theorem readText_plainLiteral (letters : List Char) (content : String) :
    (plainLiteral letters).readText = .ok content ↔
      ¬SpellsNumber letters ∧ content = String.ofList letters := by
  have isDecimal : SpellsDecimal letters ↔ (if letters.contains '.' then
      Binary64.ofText? (String.ofList letters) else none).isSome := by
    rw [spellsDecimal_iff]
    split <;> rename_i hasPoint <;> simp only [hasPoint, true_and, false_and, Option.isSome_none,
      Bool.false_eq_true]
  unfold plainLiteral SpellsNumber
  dsimp only
  rw [isDecimal, ← isSome_literalInteger?_iff]
  generalize (if letters.contains '.' then _ else none : Option Binary64) = decimal?
  generalize literalInteger? letters = integer?
  cases decimal? <;> cases integer? <;> simp [Setting.readText, fault, eq_comm]

/-! ### Bare literals -/

section

variable {letters : List Char}

theorem length_trimBlanks_le (letters : List Char) :
    (Text.trimBlanks letters).length ≤ (letters.dropWhile Text.isBlank).length := by
  have shorter := (List.dropWhile_suffix (l := (letters.dropWhile Text.isBlank).reverse)
    Text.isBlank).length_le
  rw [List.length_reverse] at shorter
  rw [Text.trimBlanks, List.length_reverse]
  exact shorter

theorem head_not_blank
    (trimmed : Text.trimBlanks letters = letters) :
    ∀ first ∈ letters.head?, Text.isBlank first = false := by
  intro first isFirst
  obtain ⟨rest, rfl⟩ := List.head?_eq_some_iff.mp isFirst
  by_contra blank
  have short := length_trimBlanks_le (first :: rest)
  rw [trimmed, List.dropWhile_cons_of_pos (by simpa using blank), List.length_cons] at short
  have shorter := (List.dropWhile_suffix (l := rest) Text.isBlank).length_le
  omega

theorem last_not_blank
    (trimmed : Text.trimBlanks letters = letters) :
    ∀ last ∈ letters.getLast?, Text.isBlank last = false := by
  intro last isLast
  obtain ⟨front, rfl⟩ := List.getLast?_eq_some_iff.mp isLast
  have kept : (front ++ [last]).dropWhile Text.isBlank = front ++ [last] := by
    cases front with
    | nil => exact List.dropWhile_cons_of_neg (by simp [head_not_blank trimmed last rfl])
    | cons first rest =>
      exact List.dropWhile_cons_of_neg (by simp [head_not_blank trimmed first rfl])
  by_contra blank
  have short := congrArg List.length trimmed
  rw [Text.trimBlanks, kept, List.reverse_concat,
    List.dropWhile_cons_of_pos (by simpa using blank)] at short
  have shorter := (List.dropWhile_suffix (l := front.reverse) Text.isBlank).length_le
  simp only [List.length_reverse, List.length_append, List.length_singleton] at short shorter
  omega

theorem isBlank_of_isLiteralBlank {letter : Char} (blank : isLiteralBlank letter = true) :
    Text.isBlank letter = true := by
  simp only [isLiteralBlank, Bool.or_eq_true, decide_eq_true_eq] at blank
  rcases blank with (((rfl | rfl) | rfl) | rfl) | rfl <;> decide

/-- Nothing but blanks may follow a truth value, and no blank stands at the end. -/
theorem eq_of_blanks_after
    {word : List Char}
    (trimmed : Text.trimBlanks letters = letters)
    (starts : word.isPrefixOf letters = true)
    (blanks : (letters.drop word.length).all isLiteralBlank = true) :
    letters = word := by
  obtain ⟨rest, rfl⟩ := List.isPrefixOf_iff_prefix.mp starts
  rw [List.drop_left] at blanks
  cases isLast : rest.getLast? with
  | none => rw [List.getLast?_eq_none_iff.mp isLast, List.append_nil]
  | some last =>
    have isBlank := List.all_eq_true.mp blanks last (List.mem_of_getLast? isLast)
    have notBlank := last_not_blank trimmed last (by rw [List.getLast?_append, isLast]; rfl)
    rw [isBlank_of_isLiteralBlank isBlank] at notBlank
    cases notBlank

theorem bareLiteral?_of_startsNumber
    (trimmed : Text.trimBlanks letters = letters)
    (starts : StartsNumber letters) :
    bareLiteral? letters = some (plainLiteral letters) := by
  obtain ⟨first, rest, rfl, isFirst⟩ := starts
  have notWord (letter : Char) (more : List Char) (differs : letter ≠ first) :
      (letter :: more).isPrefixOf (first :: rest) = false := by
    simp [List.isPrefixOf, differs]
  unfold bareLiteral?
  rw [if_neg (by rw [notWord 't' _ (by rintro rfl; exact absurd isFirst (by decide))]; exact nofun),
    if_neg (by rw [notWord 'f' _ (by rintro rfl; exact absurd isFirst (by decide))]; exact nofun),
    trimmed]

/-- A bare literal is its own text unless it is a truth value or a number. -/
theorem readText_bareLiteral?
    (trimmed : Text.trimBlanks letters = letters)
    (notTrue : letters ≠ ['t', 'r', 'u', 'e'])
    (notFalse : letters ≠ ['f', 'a', 'l', 's', 'e'])
    (noNumber : ¬SpellsNumber letters) :
    ((bareLiteral? letters).getD (.text (String.ofList letters))).readText =
      .ok (String.ofList letters) := by
  unfold bareLiteral?
  split
  · rename_i starts
    have more : ¬(letters.drop 4).all isLiteralBlank = true :=
      fun blanks => notTrue (eq_of_blanks_after trimmed starts blanks)
    rw [if_neg more]
    rfl
  · split
    · rename_i starts
      have more : ¬(letters.drop 5).all isLiteralBlank = true :=
        fun blanks => notFalse (eq_of_blanks_after trimmed starts blanks)
      rw [if_neg more]
      rfl
    · rw [trimmed, Option.getD_some]
      exact (readText_plainLiteral letters _).mpr ⟨noNumber, rfl⟩

end

/-! ### Reading bare literals -/

namespace Literal

/-- The setting that all of the letters are one literal for. -/
def whole? (letters : List Char) : Option Setting :=
  (letters.foldlM Reader.step (.start [])).bind Reader.finish

/-- A letter that a text in quotes, a list or a table starts with. -/
def isOpener (letter : Char) : Bool := ['{', '[', '"', '\''].contains letter

variable {letters : List Char}

theorem notBlank_of_isSeparator {letter : Char} (isSeparator : Reader.isSeparator letter = true) :
    isLiteralBlank letter = false := by
  simp only [Reader.isSeparator, Bool.or_eq_true, decide_eq_true_eq] at isSeparator
  rcases isSeparator with (((rfl | rfl) | rfl) | rfl) | rfl <;> decide

/-- Outside of lists and tables, a bare literal goes on to the end, and no separator may occur. -/
theorem foldlM_bare (letters reversed : List Char) :
    letters.foldlM Reader.step (.bare reversed []) =
      if letters.any Reader.isSeparator then none
      else some (.bare (letters.reverse ++ reversed) []) := by
  induction letters generalizing reversed with
  | nil => rfl
  | cons letter rest inductionHypothesis =>
    rw [List.foldlM_cons, List.any_cons, Reader.step]
    by_cases isSeparator : Reader.isSeparator letter = true
    · have ends : Reader.endBare reversed [] letter = none := by
        simp only [Reader.endBare, Reader.stepAfter, notBlank_of_isSeparator isSeparator]
        exact Option.bind_eq_none_iff.mpr fun _ _ => rfl
      rw [if_pos isSeparator, isSeparator, Bool.true_or, if_pos rfl, ends]
      rfl
    · rw [if_neg isSeparator, Bool.eq_false_iff.mpr isSeparator, Bool.false_or]
      show rest.foldlM Reader.step (.bare (letter :: reversed) []) = _
      rw [inductionHypothesis, List.reverse_cons, List.append_assoc]
      rfl

theorem whole?_of_not_opener
    (notBlank : ∀ first ∈ letters.head?, isLiteralBlank first = false)
    (notOpener : ∀ first ∈ letters.head?, isOpener first = false) :
    whole? letters = if letters.any Reader.isSeparator then none else bareLiteral? letters := by
  cases letters with
  | nil => rfl
  | cons first rest =>
    have sameStep : Reader.step (.start []) first = Reader.step (.bare [] []) first := by
      have notOpener := notOpener first rfl
      simp only [isOpener, List.contains_cons, List.contains_nil, Bool.or_false,
        Bool.or_eq_false_iff, beq_eq_false_iff_ne] at notOpener
      obtain ⟨notTable, notList, notQuote, notSingle⟩ := notOpener
      simp only [Reader.step, Reader.stepStart, notBlank first rfl, notTable, notList, notQuote,
        notSingle, if_false, Bool.false_eq_true]
    have sameRun : (first :: rest).foldlM Reader.step (.start []) =
        (first :: rest).foldlM Reader.step (.bare [] []) := by
      rw [List.foldlM_cons, sameStep, List.foldlM_cons]
    rw [whole?, sameRun, foldlM_bare]
    split
    · rfl
    · rw [List.append_nil, Option.bind_some, Reader.finish, List.reverse_reverse]

end Literal

/-! ### Quotes -/

namespace Quoted

/-- The text has at most so many letters. -/
def Reader.Fits (count : Nat) (reader : Reader) : Prop := reader.reversed.length ≤ count

/-- A letter of the text comes from at least one letter between the quotes. -/
theorem fits_step
    (long : Bool)
    (count : Nat)
    (reader : Reader)
    (letter : Char)
    (after : Reader)
    (atMost : reader.Fits count)
    (stepped : reader.step long letter = some after) :
    after.Fits (count + 1) := by
  have plain (isAfter : Reader.stepPlain long reader.reversed letter = some after) :
      after.Fits (count + 1) := by
    unfold Reader.stepPlain at isAfter
    split at isAfter
    · cases isAfter
      exact Nat.le_succ_of_le atMost
    · obtain ⟨-, ⟨⟩⟩ := Option.ite_none_right_eq_some.mp isAfter
      exact Nat.succ_le_succ atMost
  obtain ⟨reversed, mode⟩ := reader
  unfold Reader.step at stepped
  cases mode with
  | plain => exact plain stepped
  | escape =>
    dsimp only at stepped
    split at stepped
    · cases stepped
      exact Nat.le_succ_of_le atMost
    split at stepped
    · cases stepped
      exact Nat.le_succ_of_le atMost
    split at stepped
    · cases stepped
      exact Nat.le_succ_of_le atMost
    · obtain ⟨_, -, rfl⟩ := Option.map_eq_some_iff.mp stepped
      exact Nat.succ_le_succ atMost
  | code missing value =>
    obtain ⟨_, -, stepped⟩ := Option.bind_eq_some_iff.mp stepped
    cases missing with
    | zero =>
      obtain ⟨_, -, rfl⟩ := Option.map_eq_some_iff.mp stepped
      exact Nat.succ_le_succ atMost
    | succ fewer =>
      cases stepped
      exact Nat.le_succ_of_le atMost
  | lineEnd broken =>
    dsimp only at stepped
    split at stepped
    · cases stepped
      exact Nat.le_succ_of_le atMost
    split at stepped
    · cases stepped
      exact Nat.le_succ_of_le atMost
    · exact plain (Option.ite_none_right_eq_some.mp stepped).2

theorem length_of_content?
    {long : Bool}
    {letters : List Char}
    {content : String}
    (isContent : content? long letters = some content) :
    content.toList.length ≤ letters.length := by
  obtain ⟨reader, isReader, finished⟩ := Option.bind_eq_some_iff.mp isContent
  have empty : Reader.Fits 0 ⟨[], .plain⟩ := Nat.le_refl 0
  have atMost := keeps_foldlM_counting (fits_step long) empty isReader
  unfold Reader.finish at finished
  split at finished
  · cases finished
    simpa [Reader.Fits] using atMost
  · cases finished
    simpa [Reader.Fits] using atMost
  · cases finished

end Quoted

theorem length_of_quotedLiteral?
    {letters : List Char}
    {content : String}
    (isContent : quotedLiteral? letters = some content) :
    content.toList.length ≤ letters.length := by
  obtain ⟨text, isText, rfl⟩ := Option.map_eq_some_iff.mp isContent
  have atMost := Quoted.length_of_content? isText
  split
  · exact atMost
  · have front := (List.takeWhile_prefix (l := letters) (· ≠ '\\')).length_le
    have taken := (Text.takeBytes_isPrefix (letters.takeWhile (· ≠ '\\')).length
      (letters.takeWhile (· ≠ '\\'))).length_le
    rw [String.toList_ofList, List.length_append, List.length_drop]
    omega

/-! ### Lists and tables -/

namespace Literal

/-- Every text that the setting is read as has fewer letters than this. -/
def Shorter (setting : Setting) (count : Nat) : Prop :=
  ∀ content, setting.readText = .ok content → content.toList.length < count

theorem Shorter.mono
    {setting : Setting}
    {count more : Nat}
    (shorter : Shorter setting count)
    (atMost : count ≤ more) :
    Shorter setting more :=
  fun content isText => Nat.lt_of_lt_of_le (shorter content isText) atMost

theorem shorter_list (items : List Setting) (count : Nat) : Shorter (.list items) count := by
  intro content isText
  cases isText

theorem shorter_table (fields : List (String × Setting)) (count : Nat) :
    Shorter (.table fields) count := by
  intro content isText
  cases isText

namespace Reader

/-- Something was opened, and what is held outside of lists and tables is shorter than the number of
letters that were read. -/
def Within (count : Nat) : Reader → Prop
  | .start frames | .bare _ frames => frames ≠ []
  | .quoted reversed _ frames => frames = [] → reversed.length < count
  | .single _ frames => frames = [] → 0 < count
  | .after whole frames => frames = [] → Shorter whole count
  | _ => True

variable {count : Nat} {frames : List Frame} {letter : Char} {after : Reader}

theorem within_stepAfter
    {whole : Setting}
    (shorter : frames = [] → Shorter whole count)
    (stepped : stepAfter whole frames letter = some after) :
    after.Within (count + 1) := by
  unfold stepAfter at stepped
  split at stepped
  · cases stepped
    exact fun outside => (shorter outside).mono (Nat.le_succ count)
  · split at stepped
    · split at stepped
      · cases stepped
        trivial
      · obtain ⟨-, ⟨⟩⟩ := Option.ite_none_right_eq_some.mp stepped
        exact fun _ => shorter_list _ _
    · simp only at stepped
      split at stepped
      · cases stepped
        trivial
      · obtain ⟨-, ⟨⟩⟩ := Option.ite_none_right_eq_some.mp stepped
        exact fun _ => shorter_table _ _
    · cases stepped

theorem within_endBare
    {reversed : List Char}
    (inside : frames ≠ [])
    (stepped : endBare reversed frames letter = some after) :
    after.Within (count + 1) := by
  obtain ⟨whole, -, stepped⟩ := Option.bind_eq_some_iff.mp stepped
  exact within_stepAfter (absurd · inside) stepped

theorem within_stepStart
    (inside : frames ≠ [])
    (stepped : stepStart frames letter = some after) :
    after.Within (count + 1) := by
  unfold stepStart at stepped
  split at stepped
  · cases stepped; exact inside
  split at stepped
  · cases stepped; trivial
  split at stepped
  · cases stepped; trivial
  split at stepped
  · cases stepped; exact (absurd · inside)
  split at stepped
  · cases stepped; exact (absurd · inside)
  split at stepped
  · exact within_endBare inside stepped
  · cases stepped; exact inside

theorem within_stepKey
    {reversed : List (String × Setting)}
    (stepped : stepKey reversed frames letter = some after) :
    after.Within count := by
  unfold stepKey at stepped
  split at stepped
  · cases stepped; trivial
  split at stepped
  · cases stepped; trivial
  · obtain ⟨-, ⟨⟩⟩ := Option.ite_none_right_eq_some.mp stepped
    trivial

theorem within_stepAfterKey
    {key : String}
    {reversed : List (String × Setting)}
    (stepped : stepAfterKey key reversed frames letter = some after) :
    after.Within count := by
  unfold stepAfterKey at stepped
  split at stepped
  · cases stepped; trivial
  · obtain ⟨-, ⟨⟩⟩ := Option.ite_none_right_eq_some.mp stepped
    exact List.cons_ne_nil _ _

theorem within_step
    (count : Nat)
    (reader : Reader)
    (letter : Char)
    (after : Reader)
    (within : reader.Within count)
    (stepped : reader.step letter = some after) :
    after.Within (count + 1) := by
  cases reader with
  | start frames => exact within_stepStart within stepped
  | bare reversed frames =>
    rw [step] at stepped
    split at stepped
    · exact within_endBare within stepped
    · cases stepped
      exact within
  | quoted reversed escaped frames =>
    rw [step] at stepped
    split at stepped
    · obtain ⟨content, isContent, stepped⟩ := Option.bind_eq_some_iff.mp stepped
      cases stepped
      rintro outside _ ⟨⟩
      have atMost := length_of_quotedLiteral? isContent
      have below := within outside
      rw [List.length_reverse] at atMost
      omega
    · cases stepped
      exact fun outside => Nat.succ_lt_succ (within outside)
  | single held frames =>
    cases held with
    | none =>
      cases stepped
      exact fun _ => Nat.succ_pos count
    | some held =>
      obtain ⟨-, ⟨⟩⟩ := Option.ite_none_right_eq_some.mp stepped
      rintro outside _ ⟨⟩
      rw [String.toList_ofList]
      exact Nat.succ_lt_succ (within outside)
  | nextItem reversed frames =>
    rw [step] at stepped
    split at stepped
    · cases stepped
      exact fun _ => shorter_list _ _
    · exact within_stepStart (List.cons_ne_nil _ _) stepped
  | nextKey reversed frames =>
    rw [step] at stepped
    split at stepped
    · cases stepped
      exact fun _ => shorter_table _ _
    · exact within_stepKey stepped
  | beforeKey reversed frames => exact within_stepKey stepped
  | bareKey letters reversed frames =>
    rw [step] at stepped
    split at stepped
    · cases stepped
      trivial
    · exact within_stepAfterKey stepped
  | quotedKey letters escaped reversed frames =>
    rw [step] at stepped
    split at stepped
    · obtain ⟨content, -, stepped⟩ := Option.bind_eq_some_iff.mp stepped
      cases stepped
      trivial
    · cases stepped
      trivial
  | afterKey key reversed frames => exact within_stepAfterKey stepped
  | after whole frames => exact within_stepAfter within stepped

theorem shorter_finish
    {reader : Reader}
    {setting : Setting}
    (within : reader.Within count)
    (finished : reader.finish = some setting) :
    Shorter setting count := by
  unfold finish at finished
  split at finished
  · exact absurd rfl within
  · exact absurd rfl within
  · cases finished
    exact within rfl
  · cases finished

end Reader

/-- What stands in quotes or brackets is no text, or one that is shorter with the quotes taken
off. -/
theorem shorter_of_opener
    {first : Char}
    {rest : List Char}
    {whole : Setting}
    (opener : isOpener first = true)
    (isWhole : whole? (first :: rest) = some whole) :
    Shorter whole (first :: rest).length := by
  obtain ⟨reader, isReader, finished⟩ := Option.bind_eq_some_iff.mp isWhole
  rw [List.foldlM_cons] at isReader
  obtain ⟨opened, isOpened, isReader⟩ := Option.bind_eq_some_iff.mp isReader
  have within : opened.Within 1 := by
    simp only [isOpener, List.contains_eq_mem, List.mem_cons, List.not_mem_nil, or_false,
      decide_eq_true_eq] at opener
    rcases opener with rfl | rfl | rfl | rfl <;> cases isOpened
    · trivial
    · trivial
    · exact fun _ => Nat.one_pos
    · exact fun _ => Nat.one_pos
  have read := keeps_foldlM_counting Reader.within_step within isReader
  rw [List.length_cons, Nat.add_comm]
  exact Reader.shorter_finish read finished

end Literal

/-! ### Values -/

/-- The value looks like something else than text: like a truth value, a number, or a text in
quotes, a list or a table that is written as literals are. -/
inductive Mistaken : List Char → Prop
  | truth : Mistaken ['t', 'r', 'u', 'e']
  | falsehood : Mistaken ['f', 'a', 'l', 's', 'e']
  | number {letters : List Char} (spells : SpellsNumber letters) : Mistaken letters
  | enclosed {first : Char} {rest : List Char} {whole : Setting}
      (opener : Literal.isOpener first = true)
      (isWhole : Literal.whole? (first :: rest) = some whole) : Mistaken (first :: rest)

theorem ofLiteral_eq (value : String) :
    Setting.ofLiteral value = (Literal.whole? value.toList).getD (.text value) :=
  rfl

theorem not_separator_of_isNumberLetter
    {letter : Char}
    (isNumberLetter : isNumberLetter letter = true) :
    Literal.Reader.isSeparator letter = false := by
  rw [← Bool.not_eq_true]
  intro isSeparator
  simp only [Literal.Reader.isSeparator, Bool.or_eq_true, decide_eq_true_eq] at isSeparator
  rcases isSeparator with (((rfl | rfl) | rfl) | rfl) | rfl <;>
    exact absurd isNumberLetter (by decide)

theorem not_opener_of_isNumberLetter
    {letter : Char}
    (isNumberLetter : isNumberLetter letter = true) :
    Literal.isOpener letter = false := by
  rw [← Bool.not_eq_true]
  intro opener
  simp only [Literal.isOpener, List.contains_eq_mem, List.mem_cons, List.not_mem_nil, or_false,
    decide_eq_true_eq] at opener
  rcases opener with rfl | rfl | rfl | rfl <;> exact absurd isNumberLetter (by decide)

theorem not_literalBlank_of_trimmed
    {letters : List Char}
    (trimmed : Text.trimBlanks letters = letters) :
    ∀ first ∈ letters.head?, isLiteralBlank first = false := by
  intro first isFirst
  rw [← Bool.not_eq_true]
  intro blank
  exact absurd (isBlank_of_isLiteralBlank blank)
    (Bool.eq_false_iff.mp (head_not_blank trimmed first isFirst))

/-- A value without blanks around it is read as its own text exactly if it does not look like
something else. -/
theorem readText_ofLiteral_iff
    {value : String}
    (trimmed : Text.trimBlanks value.toList = value.toList) :
    (Setting.ofLiteral value).readText = .ok value ↔ ¬Mistaken value.toList := by
  have same : String.ofList value.toList = value := String.ofList_toList
  have notBlank := not_literalBlank_of_trimmed trimmed
  rw [ofLiteral_eq]
  constructor
  · intro isText mistaken
    generalize isLetters : value.toList = letters at *
    cases mistaken with
    | truth => cases isText
    | falsehood => cases isText
    | number spells =>
      have areNumberLetters := spells.areNumberLetters
      have noSeparator : letters.any Literal.Reader.isSeparator = false :=
        List.any_eq_false.mpr fun letter member => by
          rw [not_separator_of_isNumberLetter (areNumberLetters letter member)]
          exact nofun
      rw [Literal.whole?_of_not_opener notBlank fun first isFirst =>
          not_opener_of_isNumberLetter (areNumberLetters first (List.mem_of_head? isFirst)),
        noSeparator, if_neg nofun, bareLiteral?_of_startsNumber trimmed spells.startsNumber,
        Option.getD_some] at isText
      exact ((readText_plainLiteral letters value).mp isText).1 spells
    | enclosed opener isWhole =>
      rw [isWhole] at isText
      have shorter := Literal.shorter_of_opener opener isWhole value isText
      rw [isLetters] at shorter
      exact Nat.lt_irrefl _ shorter
  · intro notMistaken
    by_cases opener : ∀ first ∈ value.toList.head?, Literal.isOpener first = false
    · rw [Literal.whole?_of_not_opener notBlank opener]
      split
      · rfl
      · have isText := readText_bareLiteral? trimmed
          (fun isTrue => notMistaken (isTrue ▸ .truth))
          (fun isFalse => notMistaken (isFalse ▸ .falsehood))
          (fun spells => notMistaken (.number spells))
        rwa [same] at isText
    · simp only [not_forall, Bool.not_eq_false] at opener
      obtain ⟨first, isFirst, opener⟩ := opener
      obtain ⟨rest, isLetters⟩ := List.head?_eq_some_iff.mp isFirst
      cases isWhole : Literal.whole? value.toList with
      | none => rfl
      | some whole =>
        rw [isLetters] at notMistaken isWhole
        exact absurd (.enclosed opener isWhole) notMistaken

end RepoVitals.Config

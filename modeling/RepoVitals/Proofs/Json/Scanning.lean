import RepoVitals.Json.Written
import RepoVitals.Proofs.Json.Decimal
/-!
Printed values under the scanner.

Owns:
- the letters of numbers, none of which separates words;
- `escapeChar` and `renderText` against the scanner: quoted text reads back as itself;
- `tokens?_render`: the tokens of a printed value;
- `newline_not_mem_render`: a printed value stands on one line.
-/

namespace RepoVitals.Json

/-! ### Words -/

theorem isWordLetter_of_isDigit {letter : Char} (isDigit : letter.isDigit = true) :
    Scanner.isWordLetter letter = true := by
  simp [Scanner.isWordLetter, Char.isAlphanum, isDigit]

namespace Numeral

variable {numeral : Numeral}

theorem isWordLetter_of_mem_unsignedLetters
    (wellFormed : numeral.WellFormed)
    {letter : Char}
    (member : letter ∈ numeral.unsignedLetters) :
    Scanner.isWordLetter letter = true := by
  rw [unsignedLetters, List.mem_append, List.mem_append] at member
  rcases member with whole | fraction | exponent
  · exact isWordLetter_of_isDigit (wellFormed.whole letter whole)
  · split at fraction
    · cases fraction
    · rcases List.mem_cons.mp fraction with point | digit
      · rw [point]
        decide
      · exact isWordLetter_of_isDigit (wellFormed.fraction letter digit)
  · cases isExponent : numeral.exponent with
    | none => simp [isExponent, exponentLetters] at exponent
    | some found =>
      obtain ⟨negative, digits⟩ := found
      rw [isExponent, exponentLetters, List.mem_cons, List.mem_cons] at exponent
      rcases exponent with mark | sign | digit
      · rw [mark]
        decide
      · rw [sign]
        cases negative <;> decide
      · exact isWordLetter_of_isDigit ((wellFormed.exponent _ isExponent).2 letter digit)

theorem isWordLetter_of_mem_letters
    (wellFormed : numeral.WellFormed)
    {letter : Char}
    (member : letter ∈ numeral.letters) :
    Scanner.isWordLetter letter = true := by
  rw [letters] at member
  split at member
  · rcases List.mem_cons.mp member with sign | other
    · rw [sign]
      decide
    · exact isWordLetter_of_mem_unsignedLetters wellFormed other
  · exact isWordLetter_of_mem_unsignedLetters wellFormed member

/-- A numeral starts with a digit or a minus, so that it is none of the words with a meaning. -/
theorem head?_letters (wellFormed : numeral.WellFormed) :
    ∃ first ∈ numeral.letters.head?, first = '-' ∨ first.isDigit = true := by
  rw [letters]
  split
  · exact ⟨'-', rfl, Or.inl rfl⟩
  · obtain ⟨first, rest, isWhole⟩ := List.exists_cons_of_ne_nil wellFormed.some
    refine ⟨first, ?_, Or.inr (wellFormed.whole first (isWhole ▸ List.mem_cons_self))⟩
    rw [unsignedLetters, isWhole]
    rfl

end Numeral

theorem renderNumber_ne_nil (number : Number) : renderNumber number ≠ [] := by
  rw [renderNumber_eq]
  cases isNumeral : number.numeral? with
  | none => exact List.cons_ne_nil _ _
  | some numeral =>
    obtain ⟨first, isHead, -⟩ :=
      Numeral.head?_letters (Number.wellFormed_of_numeral? isNumeral)
    intro isNil
    dsimp only at isNil
    rw [isNil] at isHead
    cases isHead

theorem isWordLetter_of_mem_renderNumber
    {number : Number}
    {letter : Char}
    (member : letter ∈ renderNumber number) :
    Scanner.isWordLetter letter = true := by
  rw [renderNumber_eq] at member
  cases isNumeral : number.numeral? with
  | none =>
    rw [isNumeral] at member
    have letters : ['n', 'u', 'l', 'l'].all Scanner.isWordLetter = true := by decide
    exact List.all_eq_true.mp letters letter member
  | some numeral =>
    rw [isNumeral] at member
    exact Numeral.isWordLetter_of_mem_letters (Number.wellFormed_of_numeral? isNumeral) member

namespace Scanner

variable (tokens : List Token)

/-! One equation for each mode of the scanner. -/

theorem step_between (letter : Char) :
    step ⟨tokens, .between⟩ letter = stepBetween tokens letter := rfl

theorem step_inWord (reversed : List Char) (letter : Char) :
    step ⟨tokens, .inWord reversed⟩ letter =
      if isWordLetter letter then some ⟨tokens, .inWord (letter :: reversed)⟩
      else stepBetween (.word reversed.reverse :: tokens) letter := rfl

theorem step_inText (text : OpenText) (letter : Char) :
    step ⟨tokens, .inText text⟩ letter =
      if letter = '"' then some ⟨.text text.content :: tokens, .between⟩
      else if letter = '\\' then some ⟨tokens, .inEscape text⟩
      else if letter.toNat < 0x20 then none
      else some ⟨tokens, .inText (text.push letter)⟩ := rfl

theorem step_inUnit (text : OpenText) (digits value : Nat) (letter : Char) :
    step ⟨tokens, .inUnit text digits value⟩ letter =
      (Text.hexValue? letter).map (fun digit =>
        if digits = 3 then ⟨tokens, .inText (text.pushUnit (16 * value + digit))⟩
        else ⟨tokens, .inUnit text (digits + 1) (16 * value + digit)⟩) := rfl

theorem stepBetween_word {letter : Char} (isWord : isWordLetter letter = true) :
    stepBetween tokens letter = some ⟨tokens, .inWord [letter]⟩ := by
  have notBlank : isBlank letter = false := by
    by_contra blank
    rw [Bool.not_eq_false] at blank
    simp only [isBlank, Bool.or_eq_true, decide_eq_true_eq] at blank
    rcases blank with ((isBlank | isBlank) | isBlank) | isBlank <;>
      rw [isBlank] at isWord <;> exact absurd isWord (by decide)
  have notQuote : letter ≠ '"' := by
    intro isQuote
    rw [isQuote] at isWord
    exact absurd isWord (by decide)
  rw [stepBetween, notBlank, if_neg Bool.false_ne_true, if_neg notQuote, if_pos isWord]

theorem foldlM_inWord
    {letters : List Char}
    (areWord : ∀ letter ∈ letters, isWordLetter letter = true) :
    ∀ reversed, letters.foldlM step ⟨tokens, .inWord reversed⟩ =
      some ⟨tokens, .inWord (letters.reverse ++ reversed)⟩ := by
  induction letters with
  | nil => exact fun _ => rfl
  | cons letter letters inductionHypothesis =>
    intro reversed
    have isWord := areWord letter List.mem_cons_self
    have tail := inductionHypothesis (fun other member =>
      areWord other (List.mem_cons_of_mem _ member)) (letter :: reversed)
    rw [List.foldlM_cons, step_inWord, if_pos isWord, List.reverse_cons, List.append_assoc]
    exact tail

/-- The scanner has read these tokens, last first; the last one may be a word that is still open. -/
def Stands (scanner : Scanner) (read : List Token) : Prop :=
  scanner = ⟨read, .between⟩ ∨
    ∃ reversed before, scanner = ⟨before, .inWord reversed⟩ ∧
      read = .word reversed.reverse :: before

theorem stands_between : (⟨tokens, .between⟩ : Scanner).Stands tokens := Or.inl rfl

/-- A character that is no letter of a word ends an open word. -/
theorem Stands.step
    {scanner : Scanner}
    {read : List Token}
    {letter : Char}
    (stands : scanner.Stands read)
    (noWord : isWordLetter letter = false) :
    scanner.step letter = stepBetween read letter := by
  rcases stands with rfl | ⟨reversed, before, rfl, rfl⟩
  · rfl
  · rw [step_inWord, noWord, if_neg Bool.false_ne_true]

theorem Stands.finish {scanner : Scanner} {read : List Token} (stands : scanner.Stands read) :
    scanner.finish = some read.reverse := by
  rcases stands with rfl | ⟨reversed, before, rfl, rfl⟩ <;> rfl

/-- Between two tokens these letters are read as these tokens; a last word may still be open. -/
def Reads (letters : List Char) (read : List Token) : Prop :=
  ∀ tokens, ∃ scanner, letters.foldlM step ⟨tokens, .between⟩ = some scanner ∧
    scanner.Stands (read.reverse ++ tokens)

/-- The same without an open word. -/
def ReadsWhole (letters : List Char) (read : List Token) : Prop :=
  ∀ tokens, letters.foldlM step ⟨tokens, .between⟩ = some ⟨read.reverse ++ tokens, .between⟩

section Reads

variable {first second : List Char} {firstRead secondRead : List Token}

theorem ReadsWhole.reads (whole : ReadsWhole first firstRead) : Reads first firstRead :=
  fun tokens => ⟨_, whole tokens, stands_between _⟩

theorem ReadsWhole.append
    (whole : ReadsWhole first firstRead)
    (next : ReadsWhole second secondRead) :
    ReadsWhole (first ++ second) (firstRead ++ secondRead) := by
  intro tokens
  rw [List.foldlM_append, whole tokens, List.reverse_append, List.append_assoc]
  exact next (firstRead.reverse ++ tokens)

theorem readsWhole_punctuation
    {letter : Char}
    {token : Token}
    (isToken : ∀ tokens, stepBetween tokens letter = some ⟨token :: tokens, .between⟩) :
    ReadsWhole [letter] [token] := by
  intro tokens
  rw [List.foldlM_cons, step_between, isToken]
  rfl

/-- Punctuation ends an open word. -/
theorem Reads.punctuation
    {letter : Char}
    {token : Token}
    (reads : Reads first firstRead)
    (isToken : ∀ tokens, stepBetween tokens letter = some ⟨token :: tokens, .between⟩)
    (noWord : isWordLetter letter = false) :
    ReadsWhole (first ++ [letter]) (firstRead ++ [token]) := by
  intro tokens
  obtain ⟨scanner, run, stands⟩ := reads tokens
  rw [List.foldlM_append, run, List.reverse_append]
  show step scanner letter >>= _ = _
  rw [stands.step noWord, isToken]
  rfl

theorem reads_word
    {letters : List Char}
    (some : letters ≠ [])
    (areWord : ∀ letter ∈ letters, isWordLetter letter = true) :
    Reads letters [.word letters] := by
  intro tokens
  obtain ⟨first, rest, rfl⟩ := List.exists_cons_of_ne_nil some
  refine ⟨⟨tokens, .inWord (rest.reverse ++ [first])⟩, ?_, ?_⟩
  · rw [List.foldlM_cons, step_between, stepBetween_word tokens (areWord first List.mem_cons_self)]
    exact foldlM_inWord tokens (fun letter member =>
      areWord letter (List.mem_cons_of_mem _ member)) [first]
  · exact Or.inr ⟨_, tokens, rfl, by simp⟩

end Reads

end Scanner

/-! ### Quoted text -/

theorem hexValue?_hexDigit : ∀ value < 16, Text.hexValue? (Text.hexDigit value) = some value := by
  decide

namespace OpenText

/-- Sound text without half a pair at its end. -/
def ofReversed (reversed : List Char) : OpenText := ⟨reversed, true, none⟩

theorem pushUnit_ofReversed {reversed : List Char} {unit : Nat} (small : unit < 0xD800) :
    (ofReversed reversed).pushUnit unit = ofReversed (Char.ofNat unit :: reversed) := by
  unfold pushUnit ofReversed
  dsimp only
  rw [if_neg (by omega), if_neg (by omega)]

theorem content_ofReversed (reversed : List Char) :
    (ofReversed reversed).content = some (String.ofList reversed.reverse) := rfl

end OpenText

namespace Scanner

open OpenText (ofReversed)

variable (tokens : List Token)

/-- A control character is written by its code. -/
theorem scan_unit (reversed : List Char) {letter : Char} (small : letter.toNat < 0x20) :
    List.foldlM step ⟨tokens, .inText (ofReversed reversed)⟩
      ['\\', 'u', '0', '0', Text.hexDigit (letter.toNat / 16), Text.hexDigit (letter.toNat % 16)] =
      some ⟨tokens, .inText (ofReversed (letter :: reversed))⟩ := by
  have high := hexValue?_hexDigit (letter.toNat / 16) (by omega)
  have low := hexValue?_hexDigit (letter.toNat % 16) (by omega)
  have whole : 16 * (16 * (16 * (16 * 0 + 0) + 0) + letter.toNat / 16) + letter.toNat % 16 =
      letter.toNat := by omega
  calc List.foldlM step ⟨tokens, .inText (ofReversed reversed)⟩ ['\\', 'u', '0', '0',
        Text.hexDigit (letter.toNat / 16), Text.hexDigit (letter.toNat % 16)]
      = List.foldlM step ⟨tokens, .inUnit (ofReversed reversed) 2 0⟩
          [Text.hexDigit (letter.toNat / 16), Text.hexDigit (letter.toNat % 16)] := rfl
    _ = some ⟨tokens, .inText ((ofReversed reversed).pushUnit
          (16 * (16 * (16 * (16 * 0 + 0) + 0) + letter.toNat / 16) + letter.toNat % 16))⟩ := by
        rw [List.foldlM_cons, step_inUnit, high, Option.map_some, Option.bind_eq_bind,
          Option.bind_some, if_neg (by decide), List.foldlM_cons, step_inUnit, low,
          Option.map_some, Option.bind_eq_bind, Option.bind_some, if_pos rfl]
        rfl
    _ = some ⟨tokens, .inText (ofReversed (letter :: reversed))⟩ := by
        rw [whole, OpenText.pushUnit_ofReversed (by omega), Char.ofNat_toNat]

/-- What stands for a character inside quotes is read as the character. -/
theorem scan_escapeChar (reversed : List Char) (letter : Char) :
    (escapeChar letter).foldlM step ⟨tokens, .inText (ofReversed reversed)⟩ =
      some ⟨tokens, .inText (ofReversed (letter :: reversed))⟩ := by
  -- A short escape is a backslash and a letter, both of which are known.
  have short : ∀ plain mark, shortEscape? mark = some plain → mark ≠ 'u' →
      List.foldlM step ⟨tokens, .inText (ofReversed reversed)⟩ ['\\', mark] =
        some ⟨tokens, .inText (ofReversed (plain :: reversed))⟩ := by
    intro plain mark isShort notUnit
    show step ⟨tokens, .inEscape (ofReversed reversed)⟩ mark >>= _ = _
    rw [step]
    dsimp only
    rw [if_neg notUnit, isShort]
    rfl
  unfold escapeChar
  split
  · rename_i isQuote
    exact isQuote ▸ short '"' '"' rfl (by decide)
  split
  · rename_i isBackslash
    exact isBackslash ▸ short '\\' '\\' rfl (by decide)
  split
  · rename_i isBackspace
    exact isBackspace ▸ short '\x08' 'b' rfl (by decide)
  split
  · rename_i isFormFeed
    exact isFormFeed ▸ short '\x0c' 'f' rfl (by decide)
  split
  · rename_i isLineFeed
    exact isLineFeed ▸ short '\n' 'n' rfl (by decide)
  split
  · rename_i isReturn
    exact isReturn ▸ short '\r' 'r' rfl (by decide)
  split
  · rename_i isTab
    exact isTab ▸ short '\t' 't' rfl (by decide)
  split
  · rename_i small
    exact scan_unit tokens reversed small
  · rename_i notQuote notBackslash _ _ _ _ _ notSmall
    rw [List.foldlM_cons, step_inText, if_neg notQuote, if_neg notBackslash, if_neg notSmall]
    rfl

theorem scan_escaped (reversed letters : List Char) :
    (letters.flatMap escapeChar).foldlM step ⟨tokens, .inText (ofReversed reversed)⟩ =
      some ⟨tokens, .inText (ofReversed (letters.reverse ++ reversed))⟩ := by
  induction letters generalizing reversed with
  | nil => rfl
  | cons letter letters inductionHypothesis =>
    rw [List.flatMap_cons, List.foldlM_append, scan_escapeChar, List.reverse_cons,
      List.append_assoc]
    exact inductionHypothesis (letter :: reversed)

/-- A quoted text is one token, which spells the text. -/
theorem readsWhole_renderText (content : String) :
    ReadsWhole (renderText content) [.text (some content)] := by
  intro tokens
  have opened : step ⟨tokens, .between⟩ '"' = some ⟨tokens, .inText (ofReversed [])⟩ := rfl
  rw [renderText, List.foldlM_cons, opened, Option.bind_eq_bind, Option.bind_some,
    List.foldlM_append, scan_escaped, List.append_nil]
  show some (⟨.text (ofReversed content.toList.reverse).content :: tokens, .between⟩ : Scanner) = _
  rw [OpenText.content_ofReversed, List.reverse_reverse, String.ofList_toList]
  rfl

end Scanner

/-! ### Values -/

mutual

/-- The tokens of a printed value. -/
def Value.tokens : Value → List Token
  | .null => [.word ['n', 'u', 'l', 'l']]
  | .boolean true => [.word ['t', 'r', 'u', 'e']]
  | .boolean false => [.word ['f', 'a', 'l', 's', 'e']]
  | .number value => [.word (renderNumber value)]
  | .text content => [.text (some content)]
  | .array items => .openArray :: Value.itemTokens items
  | .object fields => .openObject :: Value.fieldTokens fields

/-- The tokens of the rest of an array after its opening bracket. -/
def Value.itemTokens : List Value → List Token
  | [] => [.closeArray]
  | [last] => last.tokens ++ [.closeArray]
  | item :: next :: rest => item.tokens ++ .comma :: Value.itemTokens (next :: rest)

/-- The tokens of the rest of an object after its opening brace. -/
def Value.fieldTokens : List (String × Value) → List Token
  | [] => [.closeObject]
  | [(key, part)] => .text (some key) :: .colon :: (part.tokens ++ [.closeObject])
  | (key, part) :: next :: rest =>
    .text (some key) :: .colon :: (part.tokens ++ .comma :: Value.fieldTokens (next :: rest))

end

namespace Scanner

theorem openArray_eq (tokens : List Token) :
    stepBetween tokens '[' = some ⟨.openArray :: tokens, .between⟩ := rfl

theorem closeArray_eq (tokens : List Token) :
    stepBetween tokens ']' = some ⟨.closeArray :: tokens, .between⟩ := rfl

theorem openObject_eq (tokens : List Token) :
    stepBetween tokens '\x7b' = some ⟨.openObject :: tokens, .between⟩ := rfl

theorem closeObject_eq (tokens : List Token) :
    stepBetween tokens '\x7d' = some ⟨.closeObject :: tokens, .between⟩ := rfl

theorem comma_eq (tokens : List Token) :
    stepBetween tokens ',' = some ⟨.comma :: tokens, .between⟩ := rfl

theorem colon_eq (tokens : List Token) :
    stepBetween tokens ':' = some ⟨.colon :: tokens, .between⟩ := rfl

mutual

/-- A printed value is read as its tokens. -/
theorem reads_render : ∀ value : Value, Reads value.render value.tokens
  | .null => reads_word (by decide) (List.all_eq_true.mp (by decide))
  | .boolean true => reads_word (by decide) (List.all_eq_true.mp (by decide))
  | .boolean false => reads_word (by decide) (List.all_eq_true.mp (by decide))
  | .number value =>
    reads_word (renderNumber_ne_nil value) (fun _ => isWordLetter_of_mem_renderNumber)
  | .text content => (readsWhole_renderText content).reads
  | .array items =>
    ((readsWhole_punctuation openArray_eq).append (readsWhole_renderItems items)).reads
  | .object fields =>
    ((readsWhole_punctuation openObject_eq).append (readsWhole_renderFields fields)).reads

theorem readsWhole_renderItems :
    ∀ items : List Value, ReadsWhole (Value.renderItems items) (Value.itemTokens items)
  | [] => readsWhole_punctuation closeArray_eq
  | [last] => (reads_render last).punctuation closeArray_eq rfl
  | item :: next :: rest => by
    have tail := ((reads_render item).punctuation comma_eq rfl).append
      (readsWhole_renderItems (next :: rest))
    rw [Value.renderItems, Value.itemTokens]
    simpa using tail

theorem readsWhole_renderFields :
    ∀ fields : List (String × Value), ReadsWhole (Value.renderFields fields)
      (Value.fieldTokens fields)
  | [] => readsWhole_punctuation closeObject_eq
  | [(key, part)] => by
    have named := (readsWhole_renderText key).append (readsWhole_punctuation colon_eq)
    have tail := named.append ((reads_render part).punctuation closeObject_eq rfl)
    rw [Value.renderFields, Value.fieldTokens]
    simpa using tail
  | (key, part) :: next :: rest => by
    have named := (readsWhole_renderText key).append (readsWhole_punctuation colon_eq)
    have tail := (named.append ((reads_render part).punctuation comma_eq rfl)).append
      (readsWhole_renderFields (next :: rest))
    rw [Value.renderFields, Value.fieldTokens]
    simpa using tail

end

end Scanner

/-- The tokens of a printed value are the ones that it has by its structure. -/
theorem tokens?_render (value : Value) : tokens? value.render = some value.tokens := by
  obtain ⟨scanner, run, stands⟩ := Scanner.reads_render value []
  rw [tokens?, Scanner.start, run, Option.bind_eq_bind, Option.bind_some, stands.finish,
    List.append_nil, List.reverse_reverse]

/-! ### Lines -/

theorem newline_not_mem_escapeChar (letter : Char) : '\n' ∉ escapeChar letter := by
  have digits : ∀ value < 16, '\n' ≠ Text.hexDigit value := by decide
  unfold escapeChar
  split
  · decide
  split
  · decide
  split
  · decide
  split
  · decide
  split
  · decide
  split
  · decide
  split
  · decide
  split
  · have high := digits (letter.toNat / 16) (by omega)
    have low := digits (letter.toNat % 16) (by omega)
    simp [high, low]
  · rename_i notLineFeed _ _ _
    simpa using Ne.symm notLineFeed

theorem newline_not_mem_renderText (content : String) : '\n' ∉ renderText content := by
  intro member
  rw [renderText, List.mem_cons, List.mem_append] at member
  rcases member with quote | escaped | quote
  · exact absurd quote (by decide)
  · obtain ⟨letter, -, isEscape⟩ := List.mem_flatMap.mp escaped
    exact newline_not_mem_escapeChar letter isEscape
  · exact absurd (List.mem_singleton.mp quote) (by decide)

theorem newline_not_mem_renderNumber (number : Number) : '\n' ∉ renderNumber number := by
  intro member
  exact absurd (isWordLetter_of_mem_renderNumber member) (by decide)

theorem newline_not_mem_append {first second : List Char}
    (left : '\n' ∉ first)
    (right : '\n' ∉ second) :
    '\n' ∉ first ++ second :=
  fun member => (List.mem_append.mp member).elim left right

mutual

/-- A printed value stands on one line. -/
theorem newline_not_mem_render : ∀ value : Value, '\n' ∉ value.render
  | .null => by decide
  | .boolean true => by decide
  | .boolean false => by decide
  | .number value => newline_not_mem_renderNumber value
  | .text content => newline_not_mem_renderText content
  | .array items =>
    List.not_mem_cons_of_ne_of_not_mem (by decide) (newline_not_mem_renderItems items)
  | .object fields =>
    List.not_mem_cons_of_ne_of_not_mem (by decide) (newline_not_mem_renderFields fields)

theorem newline_not_mem_renderItems : ∀ items : List Value, '\n' ∉ Value.renderItems items
  | [] => by decide
  | [last] => newline_not_mem_append (newline_not_mem_render last) (by decide)
  | item :: next :: rest =>
    newline_not_mem_append (newline_not_mem_render item)
      (List.not_mem_cons_of_ne_of_not_mem (by decide) (newline_not_mem_renderItems (next :: rest)))

theorem newline_not_mem_renderFields :
    ∀ fields : List (String × Value), '\n' ∉ Value.renderFields fields
  | [] => by decide
  | [(key, part)] =>
    newline_not_mem_append (newline_not_mem_append (newline_not_mem_renderText key)
      (List.not_mem_cons_of_ne_of_not_mem (by decide) (newline_not_mem_render part))) (by decide)
  | (key, part) :: next :: rest =>
    newline_not_mem_append (newline_not_mem_append (newline_not_mem_renderText key)
      (List.not_mem_cons_of_ne_of_not_mem (by decide) (newline_not_mem_render part)))
      (List.not_mem_cons_of_ne_of_not_mem (by decide)
        (newline_not_mem_renderFields (next :: rest)))

end

end RepoVitals.Json

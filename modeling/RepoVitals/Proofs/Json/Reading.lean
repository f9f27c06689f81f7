import RepoVitals.Proofs.Json.Fields
import RepoVitals.Proofs.Json.Scanning
/-!
Printed values read back.

Owns:
- the written tree of a value, which is what its text is read as (`Written.ofText?_toText`);
- when the text of a value is read as a value at all: its integers fit 64 bits and its containers do
  not stand too deep inside one another (`Value.Legible`);
- `Value.ofText?_toText_object`: a legible object reads back as an object with the same fields,
  those with a text unchanged.
-/

namespace RepoVitals.Json

/-- The number as it is written; one that is not finite is null. -/
def Number.written (number : Number) : Written :=
  match number.numeral? with
  | none => .null
  | some numeral => .number numeral

mutual

/-- The tree that the text of a value spells. -/
def Value.written : Value → Written
  | .null => .null
  | .boolean value => .boolean value
  | .number value => value.written
  | .text content => .text (some content)
  | .array items => .array (Value.writtenItems items)
  | .object fields => .object (Value.writtenFields fields)

/-- The trees of items. -/
def Value.writtenItems : List Value → List Written
  | [] => []
  | item :: rest => item.written :: Value.writtenItems rest

/-- The trees of fields. -/
def Value.writtenFields : List (String × Value) → List (Option String × Written)
  | [] => []
  | (key, part) :: rest => (some key, part.written) :: Value.writtenFields rest

end

namespace Written.Reader

/-! ### Words -/

theorem ofWord?_letters {numeral : Numeral} (wellFormed : numeral.WellFormed) :
    ofWord? numeral.letters = some (.number numeral) := by
  obtain ⟨first, isHead, starts⟩ := Numeral.head?_letters wellFormed
  -- None of the three words starts like a numeral.
  have differs : ∀ other, other ≠ '-' → other.isDigit = false → ∀ rest,
      numeral.letters ≠ other :: rest := by
    intro other notMinus notDigit rest same
    rw [same, List.head?_cons, Option.mem_some_iff] at isHead
    rw [← isHead] at starts
    rcases starts with isMinus | isDigit
    · exact notMinus isMinus
    · exact Bool.false_ne_true (notDigit.symm.trans isDigit)
  rw [ofWord?, if_neg (differs 'n' (by decide) (by decide) _),
    if_neg (differs 't' (by decide) (by decide) _), if_neg (differs 'f' (by decide) (by decide) _),
    Numeral.ofLetters?_letters wellFormed]
  rfl

theorem ofWord?_renderNumber (number : Number) :
    ofWord? (renderNumber number) = some number.written := by
  rw [renderNumber_eq, Number.written]
  cases isNumeral : number.numeral? with
  | none => rfl
  | some numeral => exact ofWord?_letters (Number.wellFormed_of_numeral? isNumeral)

/-! ### Trees from tokens -/

/-- The first token of a value does not close an array. -/
theorem exists_cons_tokens (value : Value) :
    ∃ first rest, value.tokens = first :: rest ∧ first ≠ .closeArray := by
  cases value with
  | null => exact ⟨_, _, rfl, by decide⟩
  | boolean value => cases value <;> exact ⟨_, _, rfl, by decide⟩
  | number value => exact ⟨_, _, rfl, fun same => Token.noConfusion same⟩
  | text content => exact ⟨_, _, rfl, fun same => Token.noConfusion same⟩
  | array items => exact ⟨_, _, rfl, fun same => Token.noConfusion same⟩
  | object fields => exact ⟨_, _, rfl, fun same => Token.noConfusion same⟩

/-- The first item of an array is read like any other. -/
theorem foldlM_firstItem (value : Value) (more : List Token) (frames : List Frame) :
    (value.tokens ++ more).foldlM step (.firstItem frames) =
      (value.tokens ++ more).foldlM step (.value (.item [] :: frames)) := by
  obtain ⟨first, rest, isTokens, notClosed⟩ := exists_cons_tokens value
  rw [isTokens, List.cons_append, List.foldlM_cons, List.foldlM_cons]
  cases first with
  | closeArray => exact absurd rfl notClosed
  | _ => rfl

mutual

/-- The tokens of a value are read as its tree. -/
theorem foldlM_tokens : ∀ (value : Value) (frames : List Frame),
    value.tokens.foldlM step (.value frames) = some (complete value.written frames)
  | .null, _ => rfl
  | .boolean true, _ => rfl
  | .boolean false, _ => rfl
  | .number found, frames => by
    rw [Value.tokens, List.foldlM_cons, step, stepValue, ofWord?_renderNumber]
    rfl
  | .text _, _ => rfl
  | .array items, frames => by
    have tail := foldlM_itemTokens items [] frames
    rw [Value.tokens, List.foldlM_cons]
    show (Value.itemTokens items).foldlM step (.firstItem frames) = _
    cases items with
    | nil => rfl
    | cons item rest =>
      rw [Value.written, ← List.nil_append (Value.writtenItems _), ← List.reverse_nil,
        ← tail (List.cons_ne_nil _ _)]
      cases rest with
      | nil => exact foldlM_firstItem item _ frames
      | cons next rest => exact foldlM_firstItem item _ frames
  | .object fields, frames => by
    have tail := foldlM_fieldTokens fields [] frames
    rw [Value.tokens, List.foldlM_cons]
    show (Value.fieldTokens fields).foldlM step (.firstKey frames) = _
    cases fields with
    | nil => rfl
    | cons field rest =>
      rw [Value.written, ← List.nil_append (Value.writtenFields _), ← List.reverse_nil,
        ← tail (List.cons_ne_nil _ _)]
      cases rest <;> rfl

theorem foldlM_itemTokens : ∀ (items : List Value) (reversed : List Written)
    (frames : List Frame), items ≠ [] →
    (Value.itemTokens items).foldlM step (.value (.item reversed :: frames)) =
      some (complete (.array (reversed.reverse ++ Value.writtenItems items)) frames)
  | [], _, _, nonempty => absurd rfl nonempty
  | [last], reversed, frames, _ => by
    rw [Value.itemTokens, List.foldlM_append, foldlM_tokens last]
    show some (complete (.array (last.written :: reversed).reverse) frames) = _
    rw [List.reverse_cons]
    rfl
  | item :: next :: rest, reversed, frames, _ => by
    rw [Value.itemTokens, List.foldlM_append, foldlM_tokens item]
    show (Value.itemTokens (next :: rest)).foldlM step
      (.value (.item (item.written :: reversed) :: frames)) = _
    rw [foldlM_itemTokens (next :: rest) _ _ (List.cons_ne_nil _ _), List.reverse_cons,
      List.append_assoc]
    rfl

theorem foldlM_fieldTokens : ∀ (fields : List (String × Value))
    (reversed : List (Option String × Written)) (frames : List Frame), fields ≠ [] →
    (Value.fieldTokens fields).foldlM step (.nextKey reversed frames) =
      some (complete (.object (reversed.reverse ++ Value.writtenFields fields)) frames)
  | [], _, _, nonempty => absurd rfl nonempty
  | [(key, part)], reversed, frames, _ => by
    rw [Value.fieldTokens, List.foldlM_cons]
    show (part.tokens ++ [Token.closeObject]).foldlM step
      (.value (.field (some key) reversed :: frames)) = _
    rw [List.foldlM_append, foldlM_tokens part]
    show some (complete (.object ((some key, part.written) :: reversed).reverse) frames) = _
    rw [List.reverse_cons]
    rfl
  | (key, part) :: next :: rest, reversed, frames, _ => by
    rw [Value.fieldTokens, List.foldlM_cons]
    show (part.tokens ++ Token.comma :: Value.fieldTokens (next :: rest)).foldlM step
      (.value (.field (some key) reversed :: frames)) = _
    rw [List.foldlM_append, foldlM_tokens part]
    show (Value.fieldTokens (next :: rest)).foldlM step
      (.nextKey ((some key, part.written) :: reversed) frames) = _
    rw [foldlM_fieldTokens (next :: rest) _ _ (List.cons_ne_nil _ _), List.reverse_cons,
      List.append_assoc]
    rfl

end

end Written.Reader

/-- The text of a value is read as the tree of the value. -/
theorem Written.ofText?_toText (value : Value) :
    Written.ofText? value.toText = some value.written := by
  rw [Written.ofText?, Value.toText, String.toList_ofList, tokens?_render]
  show Written.ofTokens? value.tokens = _
  rw [Written.ofTokens?, Reader.foldlM_tokens]
  rfl

theorem Value.written_eq_of_toText_eq {first second : Value} (same : first.toText = second.toText) :
    first.written = second.written := by
  have read := Written.ofText?_toText first
  rw [same, Written.ofText?_toText] at read
  exact (Option.some.inj read).symm

theorem Number.written_integer_injective :
    Function.Injective (fun value : Int => (Number.integer value).written) :=
  fun _ _ same => Numeral.ofInteger_injective (Written.number.inj same)

/-! ### Values from trees -/

mutual

/-- Integers fit 64 bits, and at most `room` containers stand inside one another. -/
def Value.Legible (room : Nat) : Value → Prop
  | .null => True
  | .boolean _ => True
  | .number value => value.Fits
  | .text _ => True
  | .array items => 0 < room ∧ Value.LegibleItems (room - 1) items
  | .object fields => 0 < room ∧ Value.LegibleFields (room - 1) fields

/-- The same for items. -/
def Value.LegibleItems (room : Nat) : List Value → Prop
  | [] => True
  | item :: rest => item.Legible room ∧ Value.LegibleItems room rest

/-- The same for fields. -/
def Value.LegibleFields (room : Nat) : List (String × Value) → Prop
  | [] => True
  | (_, part) :: rest => part.Legible room ∧ Value.LegibleFields room rest

end

theorem Number.isSome_toValue? {number : Number} (fits : number.Fits) (room : Nat) :
    (number.written.toValue? room).isSome = true := by
  rw [Number.written]
  cases isNumeral : number.numeral? with
  | none => rfl
  | some numeral =>
    dsimp only
    rw [Written.toValue?, Option.isSome_map]
    exact Number.isSome_number? fits isNumeral

mutual

theorem Value.isSome_toValue? : ∀ (value : Value) (room : Nat), value.Legible room →
    (value.written.toValue? room).isSome = true
  | .null, _, _ => rfl
  | .boolean _, _, _ => rfl
  | .number _, room, legible => Number.isSome_toValue? legible room
  | .text _, _, _ => rfl
  | .array items, room, legible => by
    obtain ⟨positive, legibleItems⟩ := legible
    rw [Value.written, Written.toValue?, if_neg positive.ne', Option.isSome_map]
    exact Value.isSome_toValues? items (room - 1) legibleItems
  | .object fields, room, legible => by
    obtain ⟨positive, legibleFields⟩ := legible
    rw [Value.written, Written.toValue?, if_neg positive.ne', Option.isSome_map]
    exact Value.isSome_toFields? fields (room - 1) legibleFields

theorem Value.isSome_toValues? : ∀ (items : List Value) (room : Nat),
    Value.LegibleItems room items →
    (Written.toValues? room (Value.writtenItems items)).isSome = true
  | [], _, _ => rfl
  | item :: rest, room, legible => by
    obtain ⟨value, isValue⟩ :=
      Option.isSome_iff_exists.mp (Value.isSome_toValue? item room legible.1)
    obtain ⟨values, areValues⟩ :=
      Option.isSome_iff_exists.mp (Value.isSome_toValues? rest room legible.2)
    rw [Value.writtenItems, Written.toValues?, isValue, areValues]
    rfl

theorem Value.isSome_toFields? : ∀ (fields : List (String × Value)) (room : Nat),
    Value.LegibleFields room fields →
    (Written.toFields? room (Value.writtenFields fields)).isSome = true
  | [], _, _ => rfl
  | (key, part) :: rest, room, legible => by
    obtain ⟨value, isValue⟩ :=
      Option.isSome_iff_exists.mp (Value.isSome_toValue? part room legible.1)
    obtain ⟨values, areValues⟩ :=
      Option.isSome_iff_exists.mp (Value.isSome_toFields? rest room legible.2)
    rw [Value.writtenFields, Written.toFields?, isValue, areValues]
    rfl

end

/-- Fields that are read back have the keys that were written, and the texts. -/
theorem Value.toFields?_writtenFields
    {room : Nat}
    {fields read : List (String × Value)}
    (isRead : Written.toFields? room (Value.writtenFields fields) = some read) :
    read.map Prod.fst = fields.map Prod.fst ∧
      ∀ key content, valueUnder? key fields = some (.text content) →
        valueUnder? key read = some (.text content) := by
  induction fields generalizing read with
  | nil =>
    cases isRead
    exact ⟨rfl, fun _ _ found => by cases found⟩
  | cons field rest inductionHypothesis =>
    obtain ⟨name, part⟩ := field
    rw [Value.writtenFields, Written.toFields?] at isRead
    simp only [Option.bind_eq_bind, Option.bind_some, Option.bind_eq_some_iff] at isRead
    obtain ⟨value, isValue, others, areOthers, isCons⟩ := isRead
    cases isCons
    obtain ⟨sameKeys, sameTexts⟩ := inductionHypothesis areOthers
    constructor
    · rw [List.map_cons, List.map_cons, sameKeys]
    · intro key content found
      unfold valueUnder? at found ⊢
      split
      · rename_i isName
        rw [if_pos isName] at found
        cases found
        rw [Value.written, Written.toValue?] at isValue
        exact isValue.symm
      · rename_i notName
        rw [if_neg notName] at found
        exact sameTexts key content found

/-- A legible object reads back as an object with its texts. -/
theorem Value.ofText?_toText_object
    {fields : List (String × Value)}
    (legible : (Value.object fields).Legible containerLimit)
    (unrepeated : Unrepeated fields) :
    ∃ read, Value.ofText? (Value.object fields).toText = some (.object read) ∧
      ∀ key content, valueUnder? key fields = some (.text content) →
        valueUnder? key read = some (.text content) := by
  obtain ⟨read, isRead⟩ :=
    Option.isSome_iff_exists.mp (Value.isSome_toFields? fields (containerLimit - 1) legible.2)
  obtain ⟨sameKeys, sameTexts⟩ := Value.toFields?_writtenFields isRead
  refine ⟨(Ledger.ofList read).entries, ?_, ?_⟩
  · rw [Value.ofText?, Written.ofText?_toText, Option.bind_eq_bind, Option.bind_some,
      Value.written, Written.toValue?, if_neg (by decide), isRead, Option.map_some,
      Value.ofFields_eq]
  · intro key content found
    have stays : Unrepeated read := by
      rw [Unrepeated, sameKeys]
      exact unrepeated
    rw [← sameTexts key content found, ← Ledger.get?_ofList stays]
    rfl

end RepoVitals.Json

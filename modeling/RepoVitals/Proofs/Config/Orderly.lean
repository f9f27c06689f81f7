import RepoVitals.Config.Environment
import RepoVitals.Proofs.Ledger
import RepoVitals.Proofs.Steps
/-!
Settings whose tables stand in ascending key order.

Owns:
- `Setting.Orderly`, which says so of every table inside a setting;
- settings that are laid over each other, which stay orderly;
- the reader of literals, whose open lists and tables hold orderly settings at every step;
- the settings of an environment, which are an orderly table.
-/

namespace RepoVitals.Config

/-- Every table inside the setting stands in ascending key order. -/
inductive Setting.Orderly : Setting → Prop
  | text (content : String) : Orderly (.text content)
  | letter (value : Char) : Orderly (.letter value)
  | boolean (value : Bool) : Orderly (.boolean value)
  | integer (value : Int) : Orderly (.integer value)
  | float (value : Binary64) : Orderly (.float value)
  | list {items : List Setting} (inner : ∀ item ∈ items, item.Orderly) : Orderly (.list items)
  | table {fields : List (String × Setting)} (ascending : Ascending fields)
      (inner : ∀ field ∈ fields, field.2.Orderly) : Orderly (.table fields)

namespace Setting

/-! ### Tables -/

theorem Orderly.ascending {fields : List (String × Setting)} :
    (Setting.table fields).Orderly → Ascending fields
  | .table ascending _ => ascending

theorem Orderly.unrepeated
    {fields : List (String × Setting)}
    (orderly : (Setting.table fields).Orderly) :
    Unrepeated fields :=
  Ledger.unrepeated ⟨fields, orderly.ascending⟩

theorem Orderly.of_mem
    {fields : List (String × Setting)}
    {field : String × Setting}
    (orderly : (Setting.table fields).Orderly)
    (member : field ∈ fields) :
    field.2.Orderly := by
  cases orderly with
  | table _ inner => exact inner field member

theorem Orderly.of_mem_list
    {items : List Setting}
    {item : Setting}
    (orderly : (Setting.list items).Orderly)
    (member : item ∈ items) :
    item.Orderly := by
  cases orderly with
  | list inner => exact inner item member

theorem Orderly.empty : (Setting.table []).Orderly := .table .nil nofun

theorem Orderly.insert
    {fields : List (String × Setting)}
    {part : Setting}
    (orderly : (Setting.table fields).Orderly)
    (key : String)
    (isOrderly : part.Orderly) :
    (Setting.table (insertEntry key part fields)).Orderly := by
  refine .table (ascending_insertEntry key part orderly.ascending) fun field member => ?_
  rcases mem_insertEntry member with rfl | old
  · exact isOrderly
  · exact orderly.of_mem old

theorem orderly_ofFields
    {fields : List (String × Setting)}
    (inner : ∀ field ∈ fields, field.2.Orderly) :
    (ofFields fields).Orderly := by
  suffices general : ∀ held, (Setting.table held).Orderly →
      (Setting.table
      (fields.foldl (fun held field => insertEntry field.1 field.2 held) held)).Orderly
    from general [] .empty
  induction fields with
  | nil => exact fun held isOrderly => isOrderly
  | cons field rest inductionHypothesis =>
    intro held isOrderly
    exact inductionHypothesis (fun field member => inner field (List.mem_cons_of_mem _ member)) _
      (isOrderly.insert field.1 (inner field List.mem_cons_self))

theorem orderly_nested
    {setting : Setting}
    (orderly : setting.Orderly) :
    ∀ path : List String, (nested path setting).Orderly
  | [] => orderly
  | key :: rest => Orderly.empty.insert key (orderly_nested orderly rest)

/-- The setting is a table. -/
def isTable : Setting → Bool
  | .table _ => true
  | _ => false

theorem exists_of_isTable :
    ∀ {setting : Setting}, setting.isTable → ∃ fields, setting = .table fields
  | .table fields, _ => ⟨fields, rfl⟩

theorem overlay_table (held above : List (String × Setting)) :
    overlay (.table held) (.table above) = .table (overlayFields held above) := by
  rw [overlay]

/-- Unless two tables meet, the upper setting stays. -/
theorem overlay_of_not_tables
    {below above : Setting}
    (notTables : ¬(below.isTable ∧ above.isTable)) :
    overlay below above = above := by
  cases above with
  | table above =>
    cases below with
    | table held => exact absurd ⟨rfl, rfl⟩ notTables
    | _ => simp only [overlay]
  | _ => rw [overlay]

mutual

theorem orderly_overlay {below : Setting} (isBelow : below.Orderly) :
    ∀ {above : Setting}, above.Orderly → (overlay below above).Orderly
  | .table above, isOrderly => by
    cases below with
    | table held =>
      rw [overlay_table]
      exact orderly_overlayFields isBelow fun field member => isOrderly.of_mem member
    | _ => rwa [overlay_of_not_tables (by simp [isTable])]
  | .text _, isOrderly => by rwa [overlay]
  | .letter _, isOrderly => by rwa [overlay]
  | .boolean _, isOrderly => by rwa [overlay]
  | .integer _, isOrderly => by rwa [overlay]
  | .float _, isOrderly => by rwa [overlay]
  | .list _, isOrderly => by rwa [overlay]

theorem orderly_overlayFields
    {held : List (String × Setting)}
    (isHeld : (Setting.table held).Orderly) :
    ∀ {above : List (String × Setting)}, (∀ field ∈ above, field.2.Orderly) →
      (Setting.table (overlayFields held above)).Orderly
  | [], _ => by rwa [overlayFields]
  | (key, part) :: rest, inner => by
    have isPart : part.Orderly := inner (key, part) List.mem_cons_self
    rw [overlayFields]
    refine orderly_overlayFields (isHeld.insert key ?_) fun field member =>
      inner field (List.mem_cons_of_mem _ member)
    split
    · rename_i old found
      exact orderly_overlay (isHeld.of_mem (mem_of_valueUnder? found)) isPart
    · exact isPart

end

end Setting

/-! ### Literals -/

theorem orderly_plainLiteral (letters : List Char) : (plainLiteral letters).Orderly := by
  simp only [plainLiteral]
  split
  · exact .float _
  · exact .integer _
  · exact .text _

theorem orderly_bareLiteral
    {letters : List Char}
    {setting : Setting}
    (isLiteral : bareLiteral? letters = some setting) :
    setting.Orderly := by
  unfold bareLiteral? at isLiteral
  split at isLiteral
  · obtain ⟨-, ⟨⟩⟩ := Option.ite_none_right_eq_some.mp isLiteral
    exact .boolean true
  · split at isLiteral
    · obtain ⟨-, ⟨⟩⟩ := Option.ite_none_right_eq_some.mp isLiteral
      exact .boolean false
    · exact Option.some.inj isLiteral ▸ orderly_plainLiteral _

namespace Literal

/-- What an open list or table holds already is orderly. -/
def Frame.Orderly : Frame → Prop
  | .item reversed => ∀ item ∈ reversed, item.Orderly
  | .field _ reversed => ∀ field ∈ reversed, field.2.Orderly

namespace Reader

/-- What has been read already, as open lists and tables. -/
def frames : Reader → List Frame
  | .start frames | .bare _ frames | .quoted _ _ frames | .single _ frames => frames
  | .nextItem reversed frames => .item reversed :: frames
  | .nextKey reversed frames | .beforeKey reversed frames | .bareKey _ reversed frames
  | .quotedKey _ _ reversed frames | .afterKey _ reversed frames => .field "" reversed :: frames
  | .after whole frames => .item [whole] :: frames

/-- Everything that has been read is orderly. -/
def Orderly (reader : Reader) : Prop := ∀ frame ∈ reader.frames, frame.Orderly

variable {frames : List Frame} {letter : Char} {after : Reader}

theorem orderly_after {whole : Setting} :
    (Reader.after whole frames).Orderly ↔ whole.Orderly ∧ ∀ frame ∈ frames, frame.Orderly := by
  simp only [Orderly, Reader.frames, List.forall_mem_cons, Frame.Orderly, List.mem_singleton,
    forall_eq]

theorem orderly_stepAfter
    {whole : Setting}
    (isWhole : whole.Orderly)
    (areFrames : ∀ frame ∈ frames, frame.Orderly)
    (stepped : stepAfter whole frames letter = some after) :
    after.Orderly := by
  unfold stepAfter at stepped
  split at stepped
  · cases stepped
    exact orderly_after.mpr ⟨isWhole, areFrames⟩
  · split at stepped
    · rename_i reversed outer
      obtain ⟨isReversed, areOuter⟩ := List.forall_mem_cons.mp areFrames
      have items : ∀ item ∈ whole :: reversed, item.Orderly :=
        List.forall_mem_cons.mpr ⟨isWhole, isReversed⟩
      split at stepped
      · cases stepped
        exact List.forall_mem_cons.mpr ⟨items, areOuter⟩
      · obtain ⟨-, ⟨⟩⟩ := Option.ite_none_right_eq_some.mp stepped
        refine orderly_after.mpr ⟨.list fun item member => ?_, areOuter⟩
        exact items item (List.mem_reverse.mp member)
    · rename_i key reversed outer
      obtain ⟨isReversed, areOuter⟩ := List.forall_mem_cons.mp areFrames
      have fields : ∀ field ∈ (key, whole) :: reversed, field.2.Orderly :=
        List.forall_mem_cons.mpr ⟨isWhole, isReversed⟩
      simp only at stepped
      split at stepped
      · cases stepped
        exact List.forall_mem_cons.mpr ⟨fields, areOuter⟩
      · obtain ⟨-, ⟨⟩⟩ := Option.ite_none_right_eq_some.mp stepped
        refine orderly_after.mpr ⟨Setting.orderly_ofFields fun field member => ?_, areOuter⟩
        exact fields field (List.mem_reverse.mp member)
    · cases stepped

theorem orderly_endBare
    {reversed : List Char}
    (areFrames : ∀ frame ∈ frames, frame.Orderly)
    (stepped : endBare reversed frames letter = some after) :
    after.Orderly := by
  obtain ⟨whole, isLiteral, stepped⟩ := Option.bind_eq_some_iff.mp stepped
  exact orderly_stepAfter (orderly_bareLiteral isLiteral) areFrames stepped

theorem orderly_stepStart
    (areFrames : ∀ frame ∈ frames, frame.Orderly)
    (stepped : stepStart frames letter = some after) :
    after.Orderly := by
  have opened (first : Frame) (isFirst : first.Orderly) :
      ∀ frame ∈ first :: frames, frame.Orderly := List.forall_mem_cons.mpr ⟨isFirst, areFrames⟩
  unfold stepStart at stepped
  split at stepped
  · cases stepped; exact areFrames
  split at stepped
  · cases stepped; exact opened (.field "" []) nofun
  split at stepped
  · cases stepped; exact opened (.item []) nofun
  split at stepped
  · cases stepped; exact areFrames
  split at stepped
  · cases stepped; exact areFrames
  split at stepped
  · exact orderly_endBare areFrames stepped
  · cases stepped; exact areFrames

theorem orderly_stepKey
    {reversed : List (String × Setting)}
    (orderly : (Reader.nextKey reversed frames).Orderly)
    (stepped : stepKey reversed frames letter = some after) :
    after.Orderly := by
  unfold stepKey at stepped
  split at stepped
  · cases stepped; exact orderly
  split at stepped
  · cases stepped; exact orderly
  · obtain ⟨-, ⟨⟩⟩ := Option.ite_none_right_eq_some.mp stepped
    exact orderly

theorem orderly_stepAfterKey
    {key : String}
    {reversed : List (String × Setting)}
    (orderly : (Reader.nextKey reversed frames).Orderly)
    (stepped : stepAfterKey key reversed frames letter = some after) :
    after.Orderly := by
  unfold stepAfterKey at stepped
  split at stepped
  · cases stepped; exact orderly
  · obtain ⟨-, ⟨⟩⟩ := Option.ite_none_right_eq_some.mp stepped
    obtain ⟨isReversed, areFrames⟩ := List.forall_mem_cons.mp orderly
    exact List.forall_mem_cons.mpr ⟨isReversed, areFrames⟩

theorem orderly_step
    (reader : Reader)
    (letter : Char)
    (after : Reader)
    (orderly : reader.Orderly)
    (stepped : reader.step letter = some after) :
    after.Orderly := by
  cases reader with
  | start frames => exact orderly_stepStart orderly stepped
  | bare reversed frames =>
    rw [step] at stepped
    split at stepped
    · exact orderly_endBare orderly stepped
    · cases stepped
      exact orderly
  | quoted reversed escaped frames =>
    rw [step] at stepped
    split at stepped
    · obtain ⟨content, -, stepped⟩ := Option.bind_eq_some_iff.mp stepped
      cases stepped
      exact orderly_after.mpr ⟨.text content, orderly⟩
    · cases stepped
      exact orderly
  | single held frames =>
    cases held with
    | none =>
      cases stepped
      exact orderly
    | some held =>
      obtain ⟨-, ⟨⟩⟩ := Option.ite_none_right_eq_some.mp stepped
      exact orderly_after.mpr ⟨.letter held, orderly⟩
  | nextItem reversed frames =>
    rw [step] at stepped
    split at stepped
    · cases stepped
      obtain ⟨isReversed, areFrames⟩ := List.forall_mem_cons.mp orderly
      refine orderly_after.mpr ⟨.list fun item member => ?_, areFrames⟩
      exact isReversed item (List.mem_reverse.mp member)
    · exact orderly_stepStart orderly stepped
  | nextKey reversed frames =>
    rw [step] at stepped
    split at stepped
    · cases stepped
      obtain ⟨isReversed, areFrames⟩ := List.forall_mem_cons.mp orderly
      refine orderly_after.mpr ⟨Setting.orderly_ofFields fun field member => ?_, areFrames⟩
      exact isReversed field (List.mem_reverse.mp member)
    · exact orderly_stepKey orderly stepped
  | beforeKey reversed frames => exact orderly_stepKey orderly stepped
  | bareKey letters reversed frames =>
    rw [step] at stepped
    split at stepped
    · cases stepped
      exact orderly
    · exact orderly_stepAfterKey orderly stepped
  | quotedKey letters escaped reversed frames =>
    rw [step] at stepped
    split at stepped
    · obtain ⟨content, -, stepped⟩ := Option.bind_eq_some_iff.mp stepped
      cases stepped
      exact orderly
    · cases stepped
      exact orderly
  | afterKey key reversed frames => exact orderly_stepAfterKey orderly stepped
  | after whole frames =>
    obtain ⟨isWhole, areFrames⟩ := orderly_after.mp orderly
    exact orderly_stepAfter isWhole areFrames stepped

theorem orderly_finish
    {reader : Reader}
    {setting : Setting}
    (orderly : reader.Orderly)
    (finished : reader.finish = some setting) :
    setting.Orderly := by
  unfold finish at finished
  split at finished
  · exact orderly_bareLiteral finished
  · exact orderly_bareLiteral finished
  · cases finished
    exact (orderly_after.mp orderly).1
  · cases finished

end Reader

end Literal

theorem Setting.orderly_ofLiteral (value : String) : (ofLiteral value).Orderly := by
  unfold ofLiteral
  cases isLiteral :
      (value.toList.foldlM Literal.Reader.step (.start [])).bind Literal.Reader.finish with
  | none => exact .text value
  | some setting =>
    obtain ⟨reader, isReader, finished⟩ := Option.bind_eq_some_iff.mp isLiteral
    have start : (Literal.Reader.start []).Orderly := nofun
    exact Literal.Reader.orderly_finish (keeps_foldlM Literal.Reader.orderly_step start isReader)
      finished

/-! ### Environments -/

theorem splitAtDots_ne_nil (letters : List Char) : splitAtDots letters ≠ [] := by
  cases letters with
  | nil => exact List.cons_ne_nil _ _
  | cons letter rest =>
    rw [splitAtDots, List.foldr_cons]
    split
    · exact List.cons_ne_nil _ _
    · split <;> exact List.cons_ne_nil _ _

theorem pathOfName?_ne_nil
    {name : String}
    {path : List String}
    (isPath : pathOfName? name = some path) :
    path ≠ [] := by
  simp only [pathOfName?] at isPath
  split at isPath
  · rw [← Option.some.inj (Option.ite_none_left_eq_some.mp isPath).2]
    exact mt List.map_eq_nil_iff.mp (splitAtDots_ne_nil _)
  · cases isPath

/-- The settings of an environment are a table, and it is orderly. -/
theorem Setting.ofEnvironment_eq_table (environment : Environment) :
    ∃ fields, ofEnvironment environment = .table fields ∧ (Setting.table fields).Orderly := by
  refine List.foldlRecOn (motive := fun held => ∃ fields, held = Setting.table fields ∧
    (Setting.table fields).Orderly) environment _ ⟨[], rfl, .empty⟩ ?_
  rintro _ ⟨held, rfl, isHeld⟩ entry -
  cases isPath : pathOfName? entry.1 with
  | none => exact ⟨held, rfl, isHeld⟩
  | some path =>
    obtain ⟨key, others, rfl⟩ := List.exists_cons_of_ne_nil (pathOfName?_ne_nil isPath)
    have isUpper := orderly_nested (orderly_ofLiteral entry.2) (key :: others)
    have combined := orderly_overlay isHeld isUpper
    rw [nested, List.foldr_cons, overlay_table] at combined
    exact ⟨_, overlay_table held _, combined⟩

end RepoVitals.Config

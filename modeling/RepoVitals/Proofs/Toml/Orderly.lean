import RepoVitals.Proofs.Config.Orderly
import RepoVitals.Toml.Document
/-!
The order of the tables of a document.

Owns:
- edits of a table, which leave it orderly wherever they take place;
- the reader of values, whose open lists and inline tables are orderly at every step;
- the carried values of a document, which are orderly like the tables around them;
- the settings of a document, which are an orderly table.
-/

namespace RepoVitals.Toml

open Config (Setting)

/-! ### Tables -/

theorem Node.fields_eq_map (entries : List (String × Node)) :
    Node.fields entries = entries.map fun entry => (entry.1, entry.2.setting) := by
  induction entries with
  | nil => rw [Node.fields, List.map_nil]
  | cons entry rest inductionHypothesis => rw [Node.fields, inductionHypothesis, List.map_cons]

theorem Node.rows_eq_map (reversed : List (List (String × Node))) :
    Node.rows reversed = reversed.map fun entries => .table (Node.fields entries) := by
  induction reversed with
  | nil => rw [Node.rows, List.map_nil]
  | cons entries rest inductionHypothesis => rw [Node.rows, inductionHypothesis, List.map_cons]

theorem Node.fields_insertEntry (key : String) (node : Node) (entries : List (String × Node)) :
    Node.fields (insertEntry key node entries) =
      insertEntry key node.setting (Node.fields entries) := by
  induction entries with
  | nil => simp only [insertEntry, Node.fields]
  | cons entry rest inductionHypothesis =>
    obtain ⟨first, held⟩ := entry
    simp only [insertEntry, Node.fields]
    split
    · simp only [Node.fields]
    · split
      · simp only [Node.fields, inductionHypothesis]
      · simp only [Node.fields]

namespace Table

/-- The table stands for an orderly setting. -/
def Orderly (table : Table) : Prop := table.setting.Orderly

theorem orderly_empty (origin : Origin) : (empty origin).Orderly := by
  rw [Orderly, setting, empty, Node.fields]
  exact .empty

theorem Orderly.put
    {table : Table}
    {node : Node}
    (orderly : table.Orderly)
    (key : String)
    (isNode : node.setting.Orderly) :
    (table.put key node).Orderly := by
  rw [Orderly, setting, Table.put, Node.fields_insertEntry]
  exact Setting.Orderly.insert orderly key isNode

theorem Orderly.of_valueUnder?
    {table : Table}
    {key : String}
    {node : Node}
    (orderly : table.Orderly)
    (found : valueUnder? key table.entries = some node) :
    node.setting.Orderly := by
  have member : (key, node.setting) ∈ Node.fields table.entries := by
    rw [Node.fields_eq_map]
    exact List.mem_map_of_mem (mem_of_valueUnder? found)
  exact Setting.Orderly.of_mem orderly member

theorem orderly_iff (origin : Origin) (entries : List (String × Node)) :
    (Table.mk origin entries).Orderly ↔ (Node.table origin entries).setting.Orderly := by
  rw [Orderly, setting, Node.setting]

/-- The nodes of lists are orderly if all their tables are. -/
theorem orderly_tables {reversed : List (List (String × Node))} :
    (Node.tables reversed).setting.Orderly ↔
      ∀ entries ∈ reversed, (Setting.table (Node.fields entries)).Orderly := by
  rw [Node.setting, Node.rows_eq_map]
  constructor
  · intro orderly entries member
    exact orderly.of_mem_list (List.mem_reverse.mpr (List.mem_map_of_mem member))
  · intro inner
    refine .list fun item member => ?_
    obtain ⟨entries, isEntries, rfl⟩ := List.mem_map.mp (List.mem_reverse.mp member)
    exact inner entries isEntries

/-- An edit that leaves tables orderly does so at the end of any path. -/
theorem orderly_change
    {edit : Table → Option Table}
    (keeps : ∀ inner edited, inner.Orderly → edit inner = some edited → edited.Orderly)
    (made : Origin)
    (path : List String)
    {table changed : Table}
    (orderly : table.Orderly)
    (isChanged : table.change made path edit = some changed) :
    changed.Orderly := by
  induction path generalizing table changed with
  | nil => exact keeps table changed orderly isChanged
  | cons key rest inductionHypothesis =>
    rw [change] at isChanged
    split at isChanged
    · obtain ⟨inner, isInner, ⟨⟩⟩ := Option.bind_eq_some_iff.mp isChanged
      have isTable := inductionHypothesis (orderly_empty made) isInner
      exact orderly.put key ((orderly_iff _ _).mp isTable)
    · rename_i origin entries found
      obtain ⟨-, isChanged⟩ := Option.ite_none_left_eq_some.mp isChanged
      obtain ⟨inner, isInner, ⟨⟩⟩ := Option.bind_eq_some_iff.mp isChanged
      have isTable := (orderly_iff origin entries).mpr (orderly.of_valueUnder? found)
      exact orderly.put key ((orderly_iff _ _).mp (inductionHypothesis isTable isInner))
    · rename_i last before found
      obtain ⟨inner, isInner, ⟨⟩⟩ := Option.bind_eq_some_iff.mp isChanged
      obtain ⟨isLast, areBefore⟩ :=
        List.forall_mem_cons.mp (orderly_tables.mp (orderly.of_valueUnder? found))
      have isOpened : (Table.mk .opened last).Orderly := isLast
      have isTable : inner.Orderly := inductionHypothesis isOpened isInner
      exact orderly.put key (orderly_tables.mpr (List.forall_mem_cons.mpr ⟨isTable, areBefore⟩))
    · cases isChanged

theorem orderly_set
    {table changed : Table}
    {path : List String}
    {key : String}
    {setting : Setting}
    (orderly : table.Orderly)
    (isSetting : setting.Orderly)
    (isChanged : table.set path key setting = some changed) :
    changed.Orderly := by
  refine orderly_change (fun inner edited isInner isEdited => ?_) .dotted path orderly isChanged
  obtain ⟨-, isEdited⟩ := Option.ite_none_left_eq_some.mp isEdited
  split at isEdited
  · cases isEdited
  · cases isEdited
    exact isInner.put key isSetting

theorem orderly_openTable
    {table changed : Table}
    {path : List String}
    {key : String}
    (orderly : table.Orderly)
    (isChanged : table.openTable path key = some changed) :
    changed.Orderly := by
  refine orderly_change (fun parent edited isParent isEdited => ?_) .passed path orderly isChanged
  split at isEdited
  · cases isEdited
    exact isParent.put key ((orderly_iff .opened []).mp (orderly_empty .opened))
  · rename_i entries found
    cases isEdited
    have isTable := (orderly_iff _ entries).mpr (isParent.of_valueUnder? found)
    exact isParent.put key ((orderly_iff .opened entries).mp isTable)
  · cases isEdited

theorem orderly_openNext
    {table changed : Table}
    {path : List String}
    {key : String}
    (orderly : table.Orderly)
    (isChanged : table.openNext path key = some changed) :
    changed.Orderly := by
  have isEmpty : (Setting.table (Node.fields [])).Orderly := orderly_empty .opened
  refine orderly_change (fun parent edited isParent isEdited => ?_) .passed path orderly isChanged
  split at isEdited
  · cases isEdited
    exact isParent.put key (orderly_tables.mpr (List.forall_mem_singleton.mpr isEmpty))
  · rename_i reversed found
    cases isEdited
    have areReversed := orderly_tables.mp (isParent.of_valueUnder? found)
    exact isParent.put key (orderly_tables.mpr (List.forall_mem_cons.mpr ⟨isEmpty, areReversed⟩))
  · cases isEdited

end Table

/-! ### Values -/

/-- What an open list or inline table holds already is orderly. -/
def Frame.Orderly : Frame → Prop
  | .item reversed => ∀ item ∈ reversed, item.Orderly
  | .field _ fields => fields.Orderly

namespace Reader

/-- What has been read already, as open lists and inline tables. -/
def frames : Reader → List Frame
  | .value frames => frames
  | .nextItem reversed frames | .afterItem reversed frames => .item reversed :: frames
  | .fieldKey _ _ fields frames | .afterField fields frames => .field ⟨[], ""⟩ fields :: frames
  | .finished whole => [.item [whole]]

/-- Everything that has been read is orderly. -/
def Orderly (reader : Reader) : Prop := ∀ frame ∈ reader.frames, frame.Orderly

variable {frames : List Frame} {token : Token} {after : Reader}

theorem orderly_complete
    {whole : Setting}
    (isWhole : whole.Orderly)
    (areFrames : ∀ frame ∈ frames, frame.Orderly)
    (stepped : complete whole frames = some after) :
    after.Orderly := by
  unfold complete at stepped
  split at stepped
  · cases stepped
    exact List.forall_mem_singleton.mpr (List.forall_mem_singleton.mpr isWhole)
  · cases stepped
    obtain ⟨isReversed, areOuter⟩ := List.forall_mem_cons.mp areFrames
    exact List.forall_mem_cons.mpr ⟨List.forall_mem_cons.mpr ⟨isWhole, isReversed⟩, areOuter⟩
  · obtain ⟨fields, isFields, rfl⟩ := Option.map_eq_some_iff.mp stepped
    obtain ⟨areFields, areOuter⟩ := List.forall_mem_cons.mp areFrames
    exact List.forall_mem_cons.mpr ⟨Table.orderly_set areFields isWhole isFields, areOuter⟩

theorem orderly_scalar
    {letters : List Char}
    {setting : Setting}
    (isScalar : scalar? letters = some setting) :
    setting.Orderly := by
  unfold scalar? at isScalar
  split at isScalar
  · cases isScalar
    exact .boolean true
  split at isScalar
  · cases isScalar
    exact .boolean false
  split at isScalar
  · cases isScalar
    exact Setting.Orderly.empty.insert momentField (.text _)
  split at isScalar
  · cases isScalar
    exact .integer _
  · cases isScalar
    exact .float _
  · cases isScalar

theorem orderly_stepValue
    (areFrames : ∀ frame ∈ frames, frame.Orderly)
    (stepped : stepValue frames token = some after) :
    after.Orderly := by
  unfold stepValue at stepped
  split at stepped
  · obtain ⟨-, ⟨⟩⟩ := Option.ite_none_right_eq_some.mp stepped
    exact List.forall_mem_cons.mpr ⟨nofun, areFrames⟩
  · obtain ⟨-, ⟨⟩⟩ := Option.ite_none_right_eq_some.mp stepped
    exact List.forall_mem_cons.mpr ⟨Table.orderly_empty .opened, areFrames⟩
  · exact orderly_complete (.text _) areFrames stepped
  · obtain ⟨whole, isScalar, stepped⟩ := Option.bind_eq_some_iff.mp stepped
    exact orderly_complete (orderly_scalar isScalar) areFrames stepped
  · cases stepped

theorem orderly_stepKey
    {first : Bool}
    {tokens : List Token}
    {fields : Table}
    (areFields : fields.Orderly)
    (areFrames : ∀ frame ∈ frames, frame.Orderly)
    (stepped : stepKey first tokens fields frames token = some after) :
    after.Orderly := by
  unfold stepKey at stepped
  split at stepped
  · obtain ⟨key, -, ⟨⟩⟩ := Option.bind_eq_some_iff.mp stepped
    exact List.forall_mem_cons.mpr ⟨areFields, areFrames⟩
  · obtain ⟨-, stepped⟩ := Option.ite_none_right_eq_some.mp stepped
    exact orderly_complete areFields areFrames stepped
  · cases stepped
    exact List.forall_mem_cons.mpr ⟨areFields, areFrames⟩

theorem orderly_step
    (reader : Reader)
    (token : Token)
    (after : Reader)
    (orderly : reader.Orderly)
    (stepped : reader.step token = some after) :
    after.Orderly := by
  -- What a list that ends has held is orderly as a list.
  have closed {reversed : List Setting} (isReversed : ∀ item ∈ reversed, item.Orderly) :
      (Setting.list reversed.reverse).Orderly :=
    .list fun item member => isReversed item (List.mem_reverse.mp member)
  unfold step at stepped
  split at stepped
  · exact orderly_stepValue orderly stepped
  · obtain ⟨isReversed, areFrames⟩ := List.forall_mem_cons.mp orderly
    exact orderly_complete (closed isReversed) areFrames stepped
  · cases stepped
    exact orderly
  · exact orderly_stepValue orderly stepped
  · obtain ⟨areFields, areFrames⟩ := List.forall_mem_cons.mp orderly
    exact orderly_stepKey areFields areFrames stepped
  · cases stepped
    exact orderly
  · obtain ⟨isReversed, areFrames⟩ := List.forall_mem_cons.mp orderly
    exact orderly_complete (closed isReversed) areFrames stepped
  · cases stepped
    exact orderly
  · cases stepped
    exact orderly
  · obtain ⟨areFields, areFrames⟩ := List.forall_mem_cons.mp orderly
    exact orderly_complete areFields areFrames stepped
  · cases stepped

end Reader

theorem orderly_value
    {tokens : List Token}
    {setting : Setting}
    (isValue : value? tokens = some setting) :
    setting.Orderly := by
  obtain ⟨reader, isReader, finished⟩ := Option.bind_eq_some_iff.mp isValue
  have start : (Reader.value []).Orderly := nofun
  have orderly := keeps_foldlM Reader.orderly_step start isReader
  split at finished
  · cases finished
    exact List.forall_mem_singleton.mp (List.forall_mem_singleton.mp orderly)
  · cases finished

/-! ### Documents -/

/-- What a line sets is orderly. -/
theorem orderly_setting
    {tokens : List Token}
    {key : Key}
    {setting : Setting}
    (isLine : Line.ofTokens? tokens = some (.setting key setting)) :
    setting.Orderly := by
  unfold Line.ofTokens? at isLine
  split at isLine
  · cases isLine
  · obtain ⟨_, -, ⟨⟩⟩ := Option.map_eq_some_iff.mp isLine
  · obtain ⟨_, -, ⟨⟩⟩ := Option.map_eq_some_iff.mp isLine
  · split at isLine
    · obtain ⟨_, -, isLine⟩ := Option.bind_eq_some_iff.mp isLine
      obtain ⟨value, isValue, ⟨⟩⟩ := Option.bind_eq_some_iff.mp isLine
      exact orderly_value isValue
    · cases isLine

theorem orderly_add
    (draft : Draft)
    (line : List Token)
    (after : Draft)
    (orderly : draft.root.Orderly)
    (added : draft.add line = some after) :
    after.root.Orderly := by
  obtain ⟨meaning, isLine, added⟩ := Option.bind_eq_some_iff.mp added
  split at added
  · cases added
    exact orderly
  · obtain ⟨root, isRoot, ⟨⟩⟩ := Option.bind_eq_some_iff.mp added
    refine Table.orderly_change (fun table edited isTable isEdited => ?_) _ _ orderly isRoot
    exact Table.orderly_set isTable (orderly_setting isLine) isEdited
  · obtain ⟨root, isRoot, ⟨⟩⟩ := Option.bind_eq_some_iff.mp added
    exact Table.orderly_openTable orderly isRoot
  · obtain ⟨root, isRoot, ⟨⟩⟩ := Option.bind_eq_some_iff.mp added
    exact Table.orderly_openNext orderly isRoot

/-! ### Carried values -/

theorem map_fst_unwrapFields :
    ∀ {fields parts : List (String × Setting)}, unwrapFields? fields = some parts →
      parts.map Prod.fst = fields.map Prod.fst
  | [], _, areParts => by
    rw [unwrapFields?] at areParts
    cases areParts
    rfl
  | (key, part) :: rest, _, areParts => by
    rw [unwrapFields?] at areParts
    obtain ⟨first, -, areParts⟩ := Option.bind_eq_some_iff.mp areParts
    obtain ⟨others, areOthers, ⟨⟩⟩ := Option.bind_eq_some_iff.mp areParts
    rw [List.map_cons, List.map_cons, map_fst_unwrapFields areOthers]

/-- The keys stay, so the order does. -/
theorem ascending_unwrapFields
    {fields parts : List (String × Setting)}
    (ascending : Ascending fields)
    (areParts : unwrapFields? fields = some parts) :
    Ascending parts := by
  have keys := List.pairwise_map.mpr ascending
  rw [← map_fst_unwrapFields areParts] at keys
  exact List.pairwise_map.mp keys

mutual

theorem orderly_unwrap :
    ∀ {setting unwrapped : Setting}, setting.Orderly → unwrap? setting = some unwrapped →
      unwrapped.Orderly
  | .table fields, _, orderly, isUnwrapped => by
    rw [unwrap?] at isUnwrapped
    obtain ⟨parts, areParts, isUnwrapped⟩ := Option.bind_eq_some_iff.mp isUnwrapped
    have inner := orderly_unwrapFields (fun field member => orderly.of_mem member) areParts
    obtain ⟨-, ⟨⟩⟩ := Option.ite_none_left_eq_some.mp isUnwrapped
    cases found : valueUnder? carriedKey parts with
    | none => exact .table (ascending_unwrapFields orderly.ascending areParts) inner
    | some carried => exact inner _ (mem_of_valueUnder? found)
  | .list items, _, orderly, isUnwrapped => by
    rw [unwrap?] at isUnwrapped
    obtain ⟨parts, areParts, rfl⟩ := Option.map_eq_some_iff.mp isUnwrapped
    exact .list (orderly_unwrapItems (fun item member => orderly.of_mem_list member) areParts)
  | .text _, _, orderly, isUnwrapped
  | .letter _, _, orderly, isUnwrapped
  | .boolean _, _, orderly, isUnwrapped
  | .integer _, _, orderly, isUnwrapped
  | .float _, _, orderly, isUnwrapped => by
    rw [unwrap?] at isUnwrapped
    exact Option.some.inj isUnwrapped ▸ orderly

theorem orderly_unwrapFields :
    ∀ {fields parts : List (String × Setting)}, (∀ field ∈ fields, field.2.Orderly) →
      unwrapFields? fields = some parts → ∀ part ∈ parts, part.2.Orderly
  | [], _, _, areParts => by
    rw [unwrapFields?] at areParts
    cases areParts
    exact nofun
  | (key, part) :: rest, _, inner, areParts => by
    rw [unwrapFields?] at areParts
    obtain ⟨first, isFirst, areParts⟩ := Option.bind_eq_some_iff.mp areParts
    obtain ⟨others, areOthers, ⟨⟩⟩ := Option.bind_eq_some_iff.mp areParts
    obtain ⟨isPart, areRest⟩ := List.forall_mem_cons.mp inner
    exact List.forall_mem_cons.mpr
      ⟨orderly_unwrap isPart isFirst, orderly_unwrapFields areRest areOthers⟩

theorem orderly_unwrapItems :
    ∀ {items parts : List Setting}, (∀ item ∈ items, item.Orderly) →
      unwrapItems? items = some parts → ∀ part ∈ parts, part.Orderly
  | [], _, _, areParts => by
    rw [unwrapItems?] at areParts
    cases areParts
    exact nofun
  | item :: rest, _, inner, areParts => by
    rw [unwrapItems?] at areParts
    obtain ⟨first, isFirst, areParts⟩ := Option.bind_eq_some_iff.mp areParts
    obtain ⟨others, areOthers, ⟨⟩⟩ := Option.bind_eq_some_iff.mp areParts
    obtain ⟨isItem, areRest⟩ := List.forall_mem_cons.mp inner
    exact List.forall_mem_cons.mpr
      ⟨orderly_unwrap isItem isFirst, orderly_unwrapItems areRest areOthers⟩

end

/-- The settings of a document are a table, and it is orderly. -/
theorem document?_eq_table
    {text : String}
    {setting : Setting}
    (isDocument : document? text = some setting) :
    ∃ fields, setting = .table fields ∧ (Setting.table fields).Orderly := by
  obtain ⟨tokens, -, isDocument⟩ := Option.bind_eq_some_iff.mp isDocument
  obtain ⟨draft, isDraft, isDocument⟩ := Option.bind_eq_some_iff.mp isDocument
  obtain ⟨fields, areFields, rfl⟩ := Option.map_eq_some_iff.mp isDocument
  have orderly : draft.root.Orderly :=
    keeps_foldlM orderly_add (Table.orderly_empty .opened) isDraft
  exact ⟨fields, rfl, .table (ascending_unwrapFields orderly.ascending areFields)
    (orderly_unwrapFields (fun field member => orderly.of_mem member) areFields)⟩

end RepoVitals.Toml

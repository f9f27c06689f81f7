import RepoVitals.Config.Load
import RepoVitals.Proofs.Config.Knobs
import RepoVitals.Proofs.Config.Overlay
import RepoVitals.Proofs.Toml.Orderly
/-!
Which source decides a setting.

Owns:
- what a source sets, and what stands of two sources where one is laid over the other;
- sources that load together with an address, and sources that spell alike what both of them set;
- `load_of_both_sources`: an environment and a file, each of which loads with an address, load
  together exactly if they spell alike what both set and an address is set, and then every knob
  stands where the file puts it, else where the environment puts it, else where it usually stands.

A part that both sources give is combined field by field only if both give it as a table.  Otherwise
the file's part replaces that of the environment.
-/

namespace RepoVitals.Config

variable {Record : Type}

/-! ### What sources set -/

namespace Chapter

/-- What a source sets. -/
def set? (chapter : Chapter Record) (source : Setting) (name : String) : Option Setting :=
  (source.given? configurationFields chapter.name).bind (Setting.given? chapter.fields name)

/-- What the lower source says in the chapter is not replaced as a whole: it is the only one to say
something there, or both say it in a table. -/
def stands (chapter : Chapter Record) (below above : Setting) : Bool :=
  match below.given? configurationFields chapter.name,
    above.given? configurationFields chapter.name with
  | some part, some part' => part.isTable && part'.isTable
  | _, _ => true

/-- What counts of two sources: what the upper one sets, and otherwise what the lower one sets if
its chapter stands. -/
def winner? (chapter : Chapter Record) (below above : Setting) (name : String) : Option Setting :=
  (chapter.set? above name).or
    (if chapter.stands below above then chapter.set? below name else none)

/-- Every knob of the chapter stands where the two sources put it. -/
def Follows (chapter : Chapter Record) (below above : Setting) (record : Record) : Prop :=
  ∀ knob ∈ chapter.knobs,
    knob.Settles chapter.usual (chapter.winner? below above knob.name) record

end Chapter

/-- The source loads, together with an address where it sets none. -/
def Setting.LoadsWithAddress (source : Setting) : Prop :=
  ∃ key ∈ ["store", "opensearch"], ∃ address configuration,
    readConfiguration ((Setting.nested [key, "url"] (.text address)).overlay source) =
      .ok configuration

/-- Where both sources give the same part, they spell it in the same way, and if both give it as a
table, they also spell in the same way what both of them set there. -/
def Setting.SpelledAlike : Setting → Setting → Prop :=
  Setting.Concordant configurationFields fun part =>
    Setting.Concordant (fieldsOf part.name) fun _ _ _ => True

/-! ### Chapters -/

/-- The part is one that the field can be read from. -/
def Field.Accepts (field : Field) (part : Setting) : Prop := field.check part = .ok ()

/-- The part is proper as the part of a configuration; nothing is said about the address. -/
def Field.Suits (field : Field) (part : Setting) : Prop :=
  part.Proper (fieldsOf field.name) Field.Accepts

theorem passJoined_plain
    {field : Field}
    (plain : ∀ entries, field.check (.table entries) ≠ .ok ()) :
    PassJoined field.Accepts fun _ _ => True := by
  constructor
  · intro below above _ _ accepts
    refine ⟨?_, trivial⟩
    by_cases tables : below.isTable ∧ above.isTable
    · obtain ⟨held, rfl⟩ := Setting.exists_of_isTable tables.1
      obtain ⟨above, rfl⟩ := Setting.exists_of_isTable tables.2
      rw [Setting.overlay_table] at accepts
      exact absurd accepts (plain _)
    · rwa [Setting.overlay_of_not_tables tables] at accepts
  · intro below above _ _ _ accepts _
    have notTables : ¬(below.isTable ∧ above.isTable) := by
      rintro ⟨-, isTable⟩
      obtain ⟨above, rfl⟩ := Setting.exists_of_isTable isTable
      exact plain _ accepts
    rwa [Setting.overlay_of_not_tables notTables]

/-- Parts of a configuration over each other. -/
theorem passJoined_suits (field : Field) (isField : field ∈ configurationFields) :
    PassJoined field.Suits (Setting.Concordant (fieldsOf field.name) fun _ _ _ => True) := by
  refine passJoined_proper fun inner member => passJoined_plain ?_
  simp only [configurationFields, List.mem_cons, List.not_mem_nil, or_false] at isField
  rcases isField with rfl | rfl | rfl | rfl
  · exact storeChapter.plain inner member
  · exact runtimeChapter.plain inner member
  · exact indexChapter.plain inner member
  · exact scopeChapter.plain inner member

/-- Sources over each other. -/
theorem passJoined_sources :
    PassJoined (Setting.Proper configurationFields Field.Suits) Setting.SpelledAlike :=
  passJoined_proper passJoined_suits

theorem Chapter.exists_read_iff
    (chapter : Chapter Record)
    {part : Setting}
    (orderly : part.Orderly) :
    (∃ record, chapter.read part = .ok record) ↔
      part.Proper chapter.fields Field.Accepts ∧
        ∀ field ∈ chapter.fields, field.required →
          (part.given? chapter.fields field.name).isSome := by
  constructor
  · rintro ⟨record, isRecord⟩
    obtain ⟨parts, areParts⟩ := chapter.record_of_read isRecord
    obtain ⟨proper, complete, -⟩ := (readRecord_eq_ok_iff orderly parts).mp areParts
    exact ⟨proper, complete⟩
  · rintro ⟨proper, complete⟩
    obtain ⟨record, isRecord, -⟩ := chapter.read_of_record orderly
      ((readRecord_eq_ok_iff orderly _).mpr ⟨proper, complete, rfl⟩)
    exact ⟨record, isRecord⟩

theorem Chapter.accepts_iff
    (chapter : Chapter Record)
    (spellings : List String)
    (required : Bool)
    {part : Setting}
    (orderly : part.Orderly) :
    (Field.of chapter.read chapter.name spellings required).Accepts part ↔
      (Field.of chapter.read chapter.name spellings required).Suits part ∧
        ∀ field ∈ chapter.fields, field.required →
          (part.given? chapter.fields field.name).isSome := by
  rw [Field.Suits, show fieldsOf (Field.of _ chapter.name _ _).name = _ from chapter.isPart,
    ← chapter.exists_read_iff orderly]
  constructor
  · intro accepts
    obtain ⟨record, isRecord, -⟩ := Outcome.exists_of_map_eq_ok accepts
    exact ⟨record, isRecord⟩
  · rintro ⟨record, isRecord⟩
    show (chapter.read part).map _ = _
    rw [isRecord]
    rfl

/-- A part of a configuration is accepted if it is proper; the one about the cluster must also set
the address. -/
theorem accepts_iff
    {field : Field}
    {part : Setting}
    (isField : field ∈ configurationFields)
    (orderly : part.Orderly) :
    field.Accepts part ↔
      field.Suits part ∧ (field.name = "store" → (part.given? storeFields "url").isSome) := by
  simp only [configurationFields, List.mem_cons, List.not_mem_nil, or_false] at isField
  rcases isField with rfl | rfl | rfl | rfl
  · refine (storeChapter.accepts_iff ["opensearch"] true orderly).trans
      (and_congr_right fun _ => ?_)
    simp [storeChapter, storeFields, Field.of]
  · refine (runtimeChapter.accepts_iff [] false orderly).trans (and_congr_right fun _ => ?_)
    simp [runtimeChapter, runtimeFields, Field.of]
  · refine (indexChapter.accepts_iff [] false orderly).trans (and_congr_right fun _ => ?_)
    simp [indexChapter, indexFields, Field.of]
  · refine (scopeChapter.accepts_iff [] false orderly).trans (and_congr_right fun _ => ?_)
    simp [scopeChapter, scopeFields, Field.of]

/-! ### Configurations -/

/-- What a configuration holds for a chapter is what a source gives for it, read, or the usual. -/
def Chapter.Comes (chapter : Chapter Record) (source : Setting) (record : Record) : Prop :=
  match source.given? configurationFields chapter.name with
  | some part => chapter.read part = .ok record
  | none => record = chapter.usual

theorem Chapter.settles_of_comes
    {chapter : Chapter Record}
    {source : Setting}
    {record : Record}
    (orderly : source.Orderly)
    (comes : chapter.Comes source record) :
    ∀ knob ∈ chapter.knobs,
      knob.Settles chapter.usual (chapter.set? source knob.name) record := by
  intro knob isKnob
  rw [Chapter.set?]
  rw [Chapter.Comes] at comes
  cases isGiven : source.given? configurationFields chapter.name with
  | none =>
    rw [isGiven] at comes
    exact congrArg knob.value comes
  | some part =>
    rw [isGiven] at comes
    obtain ⟨parts, areParts⟩ := chapter.record_of_read comes
    obtain ⟨other, isOther, settles⟩ := chapter.read_of_record (orderly.of_given isGiven) areParts
    rw [comes] at isOther
    exact Except.ok.inj isOther ▸ settles knob isKnob

theorem readConfiguration_of_record
    {setting : Setting}
    {parts : Parts}
    (orderly : setting.Orderly)
    (isRead : setting.readRecord configurationFields = .ok parts) :
    ∃ configuration, readConfiguration setting = .ok configuration ∧
      storeChapter.Comes setting configuration.store ∧
      runtimeChapter.Comes setting configuration.runtime ∧
      indexChapter.Comes setting configuration.index ∧
      scopeChapter.Comes setting configuration.scope := by
  have reads {Value : Type} {read : Setting → Reading Value} {name : String}
      {spellings : List String} {required : Bool} (position : Nat)
      (isField : configurationFields[position]? = some (.of read name spellings required))
      (absent : Value) :=
    exists_read (by decide) orderly isRead position isField absent
  obtain ⟨store, isStore, store_comes⟩ := reads 0 rfl (Store.at "")
  obtain ⟨runtime, isRuntime, runtime_comes⟩ := reads 1 rfl Runtime.standard
  obtain ⟨index, isIndex, index_comes⟩ := reads 2 rfl Index.Settings.standard
  obtain ⟨scope, isScope, scope_comes⟩ := reads 3 rfl Scope.standard
  refine ⟨⟨store, runtime, index, scope⟩, ?_, store_comes, runtime_comes, index_comes, scope_comes⟩
  simp only [readConfiguration, isRead, Reading.ok_bind, isStore, isRuntime, isIndex, isScope]
  rfl

theorem name_eq_store_of_required :
    ∀ field ∈ configurationFields, field.required → field.name = "store" := by
  decide

/-- A table is read as a configuration exactly if it is proper and sets the address of the
cluster. -/
theorem exists_readConfiguration_iff
    {entries : List (String × Setting)}
    (orderly : (Setting.table entries).Orderly) :
    (∃ configuration, readConfiguration (.table entries) = .ok configuration) ↔
      (Setting.table entries).Proper configurationFields Field.Suits ∧
        (storeChapter.set? (.table entries) "url").isSome := by
  constructor
  · rintro ⟨configuration, isConfiguration⟩
    obtain ⟨parts, areParts, -⟩ := Outcome.exists_of_bind_eq_ok isConfiguration
    obtain ⟨proper, complete, -⟩ := (readRecord_eq_ok_iff orderly parts).mp areParts
    constructor
    · refine ⟨proper.1, fun entry member field isField => ?_⟩
      have accepts : field.Accepts entry.2 := proper.2 entry member field isField
      exact ((accepts_iff (List.mem_of_find?_eq_some isField) (orderly.of_mem member)).mp accepts).1
    · have isGiven : ((Setting.table entries).given? configurationFields "store").isSome :=
        complete _ (.head _) rfl
      obtain ⟨store, isStore⟩ := Option.isSome_iff_exists.mp isGiven
      obtain ⟨field, isField, isName, accepts⟩ := proper.exists_of_given isStore
      show (((Setting.table entries).given? configurationFields "store").bind _).isSome
      rw [isStore]
      exact ((accepts_iff isField (orderly.of_given isStore)).mp accepts).2 isName
  · rintro ⟨proper, isSet⟩
    obtain ⟨address, isAddress⟩ := Option.isSome_iff_exists.mp isSet
    obtain ⟨store, isStore, isAddress⟩ := Option.bind_eq_some_iff.mp isAddress
    have accepted : (Setting.table entries).Proper configurationFields Field.Accepts := by
      refine ⟨proper.1, fun entry member field isField => ?_⟩
      refine (accepts_iff (List.mem_of_find?_eq_some isField) (orderly.of_mem member)).mpr
        ⟨proper.2 entry member field isField, fun isName => ?_⟩
      have named : nameOf? configurationFields entry.1 = some "store" := by
        rw [nameOf?, isField, Option.map_some, isName]
      have isGiven := given?_of_valueUnder? proper.1 named
        ((valueUnder?_eq_some_iff orderly.unrepeated).mpr member)
      rw [Option.some.inj (isGiven.symm.trans isStore)]
      exact Option.isSome_of_eq_some isAddress
    have complete : ∀ field ∈ configurationFields, field.required →
        ((Setting.table entries).given? configurationFields field.name).isSome := by
      intro field isField required
      have isName : field.name = "store" := name_eq_store_of_required field isField required
      rw [isName]
      exact Option.isSome_of_eq_some isStore
    obtain ⟨configuration, isConfiguration, -⟩ := readConfiguration_of_record orderly
      ((readRecord_eq_ok_iff orderly _).mpr ⟨accepted, complete, rfl⟩)
    exact ⟨configuration, isConfiguration⟩

/-! ### Two sources -/

variable {held above : List (String × Setting)}

/-- A source that loads with an address is proper. -/
theorem proper_of_loadsWithAddress
    (orderly : (Setting.table above).Orderly)
    (loads : (Setting.table above).LoadsWithAddress) :
    (Setting.table above).Proper configurationFields Field.Suits := by
  obtain ⟨key, -, address, configuration, isConfiguration⟩ := loads
  have isAddress := Setting.orderly_nested (.text address) [key, "url"]
  have isTogether := Setting.orderly_overlay isAddress orderly
  rw [Setting.nested, List.foldr_cons, Setting.overlay_table] at isConfiguration isTogether
  obtain ⟨proper, -⟩ := (exists_readConfiguration_iff isTogether).mp ⟨_, isConfiguration⟩
  rw [← Setting.overlay_table] at proper
  exact (passJoined_sources.split _ _ isAddress orderly proper).1

theorem Setting.overlay?_of_plain
    {below? above? : Option Setting}
    (plain : ∀ part, above? = some part → ¬part.isTable) :
    overlay? below? above? = above?.or below? := by
  cases above? with
  | none => rw [overlay?_none, Option.none_or]
  | some part =>
    rw [Option.some_or]
    cases below? with
    | none => rfl
    | some old =>
      exact congrArg some (overlay_of_not_tables fun tables => plain part rfl tables.2)

/-- What two parts of a configuration give together: what the upper one gives, and otherwise what
the lower one gives if both are tables. -/
theorem Chapter.given?_overlay
    (chapter : Chapter Record)
    {below above : Setting}
    (isBelow : below.Orderly)
    (isAbove : above.Orderly)
    (proper : (below.overlay above).Proper chapter.fields Field.Accepts)
    (name : String) :
    (below.overlay above).given? chapter.fields name =
      (above.given? chapter.fields name).or
        (if below.isTable && above.isTable then below.given? chapter.fields name else none) := by
  by_cases tables : below.isTable ∧ above.isTable
  · obtain ⟨held, rfl⟩ := Setting.exists_of_isTable tables.1
    obtain ⟨above, rfl⟩ := Setting.exists_of_isTable tables.2
    have properAbove := ((passJoined_proper fun field member =>
      passJoined_plain (chapter.plain field member)).split _ _ isBelow isAbove proper).1
    rw [Setting.overlay_table] at proper ⊢
    rw [given?_overlayFields isAbove.unrepeated proper.1]
    refine Setting.overlay?_of_plain fun part isGiven isTable => ?_
    obtain ⟨field, member, -, accepts⟩ := properAbove.exists_of_given isGiven
    obtain ⟨entries, rfl⟩ := Setting.exists_of_isTable isTable
    exact chapter.plain field member entries accepts
  · rw [Setting.overlay_of_not_tables tables, if_neg (by simpa using tables), Option.or_none]

/-- Two sources set together what stands of both. -/
theorem Chapter.set?_overlay
    (chapter : Chapter Record)
    (isHeld : (Setting.table held).Orderly)
    (isAbove : (Setting.table above).Orderly)
    (proper : (Setting.table (Setting.overlayFields held above)).Proper configurationFields
      Field.Suits)
    (name : String) :
    chapter.set? (.table (Setting.overlayFields held above)) name =
      chapter.winner? (.table held) (.table above) name := by
  have together := given?_overlayFields isAbove.unrepeated proper.1 chapter.name
  unfold winner? stands set?
  cases isPart : (Setting.table held).given? configurationFields chapter.name with
  | none =>
    rw [isPart] at together
    rw [together, Option.bind_none, ite_self, Option.or_none]
    rfl
  | some part =>
    cases isPart' : (Setting.table above).given? configurationFields chapter.name with
    | none =>
      rw [isPart, isPart'] at together
      rw [together]
      rfl
    | some part' =>
      rw [isPart, isPart'] at together
      obtain ⟨field, -, sameName, suits⟩ := proper.exists_of_given together
      rw [Field.Suits, sameName, chapter.isPart] at suits
      rw [together]
      exact chapter.given?_overlay (isHeld.of_given isPart) (isAbove.of_given isPart') suits name

/-- Two sources, each of which loads with an address, load together exactly if they spell alike what
both of them set and one of them sets the address. -/
theorem exists_readConfiguration_overlay_iff
    (isHeld : (Setting.table held).Orderly)
    (isAbove : (Setting.table above).Orderly)
    (loads : (Setting.table held).LoadsWithAddress)
    (loads' : (Setting.table above).LoadsWithAddress) :
    (∃ configuration,
      readConfiguration ((Setting.table held).overlay (.table above)) = .ok configuration) ↔
      (Setting.table held).SpelledAlike (.table above) ∧
        (storeChapter.winner? (.table held) (.table above) "url").isSome := by
  have isTogether := Setting.orderly_overlay isHeld isAbove
  have joined := passJoined_sources
  have split := joined.split _ _ isHeld isAbove
  have join := joined.join _ _ isHeld isAbove (proper_of_loadsWithAddress isHeld loads)
    (proper_of_loadsWithAddress isAbove loads')
  rw [Setting.overlay_table] at isTogether split join ⊢
  rw [exists_readConfiguration_iff isTogether]
  constructor
  · rintro ⟨proper, isSet⟩
    rw [storeChapter.set?_overlay isHeld isAbove proper] at isSet
    exact ⟨(split proper).2, isSet⟩
  · rintro ⟨alike, isSet⟩
    rw [← storeChapter.set?_overlay isHeld isAbove (join alike)] at isSet
    exact ⟨join alike, isSet⟩

/-- Where two sources load together, every knob stands where they put it. -/
theorem follows_of_readConfiguration
    (isHeld : (Setting.table held).Orderly)
    (isAbove : (Setting.table above).Orderly)
    {configuration : Configuration}
    (isRead : readConfiguration ((Setting.table held).overlay (.table above)) =
      .ok configuration) :
    storeChapter.Follows (.table held) (.table above) configuration.store ∧
      runtimeChapter.Follows (.table held) (.table above) configuration.runtime ∧
      indexChapter.Follows (.table held) (.table above) configuration.index ∧
      scopeChapter.Follows (.table held) (.table above) configuration.scope := by
  have isTogether := Setting.orderly_overlay isHeld isAbove
  rw [Setting.overlay_table] at isTogether isRead
  have proper := ((exists_readConfiguration_iff isTogether).mp ⟨_, isRead⟩).1
  obtain ⟨parts, areParts, -⟩ := Outcome.exists_of_bind_eq_ok isRead
  obtain ⟨other, isOther, store, runtime, index, scope⟩ :=
    readConfiguration_of_record isTogether areParts
  obtain rfl := Except.ok.inj (isRead.symm.trans isOther)
  have follows {Record : Type} {chapter : Chapter Record} {record : Record}
      (comes : chapter.Comes (.table (Setting.overlayFields held above)) record) :
      chapter.Follows (.table held) (.table above) record := by
    intro knob isKnob
    rw [← chapter.set?_overlay isHeld isAbove proper]
    exact Chapter.settles_of_comes isTogether comes knob isKnob
  exact ⟨follows store, follows runtime, follows index, follows scope⟩

/-! ### An environment and a file -/

theorem load_eq_ok_iff
    {environment : Environment}
    {file : File}
    {above : Setting}
    {configuration : Configuration}
    (isFile : file.settings = .ok above) :
    load (some file) environment = .ok configuration ↔
      readConfiguration ((Setting.ofEnvironment environment).overlay above) =
        .ok configuration := by
  rw [load, settingsOf, isFile]
  show (readConfiguration _).mapError _ = _ ↔ _
  cases readConfiguration ((Setting.ofEnvironment environment).overlay above) with
  | ok other =>
    exact ⟨fun same => congrArg _ (Except.ok.inj same), fun same => congrArg _ (Except.ok.inj same)⟩
  | error fault => exact ⟨nofun, nofun⟩

theorem File.settings_eq_table
    {file : File}
    {above : Setting}
    (isFile : file.settings = .ok above) :
    ∃ fields, above = .table fields ∧ (Setting.table fields).Orderly := by
  unfold File.settings at isFile
  split at isFile
  · cases isFile
    exact ⟨[], rfl, .empty⟩
  · split at isFile
    · rename_i setting isDocument
      cases isFile
      exact Toml.document?_eq_table isDocument
    · cases isFile

/-- An environment and a file, each of which loads with an address, load together exactly if they
spell alike what both of them set and one of them sets the address.  Every knob then stands where
the file puts it, otherwise where the environment puts it unless the file replaces its chapter, and
otherwise where it usually stands. -/
theorem load_of_both_sources
    (environment : Environment)
    (file : File)
    (above : Setting)
    (isFile : file.settings = .ok above)
    (environment_loads : (Setting.ofEnvironment environment).LoadsWithAddress)
    (file_loads : above.LoadsWithAddress) :
    let below := Setting.ofEnvironment environment
    ((∃ configuration, load (some file) environment = .ok configuration) ↔
      below.SpelledAlike above ∧ (storeChapter.winner? below above "url").isSome) ∧
    ∀ configuration, load (some file) environment = .ok configuration →
      storeChapter.Follows below above configuration.store ∧
      runtimeChapter.Follows below above configuration.runtime ∧
      indexChapter.Follows below above configuration.index ∧
      scopeChapter.Follows below above configuration.scope := by
  intro below
  obtain ⟨held, isEnvironment, isHeld⟩ := Setting.ofEnvironment_eq_table environment
  obtain ⟨above, rfl, isAbove⟩ := File.settings_eq_table isFile
  simp only [load_eq_ok_iff isFile]
  change below = _ at isEnvironment
  rw [show Setting.ofEnvironment environment = below from rfl, isEnvironment] at environment_loads ⊢
  exact ⟨exists_readConfiguration_overlay_iff isHeld isAbove environment_loads file_loads,
    fun configuration isRead => follows_of_readConfiguration isHeld isAbove isRead⟩

/-- A pool whose size both sources set under its former name has the size that the file gives. -/
theorem load_of_both_sources_for_former_name :
    let environment : Environment :=
      [("PMX_STORE__URL", "u"), ("PMX_RUNTIME__NUM_THREADS", "4"), ("PMX_RUN__REPOSITORIES", "[a]")]
    ∃ above, File.settings ⟨"pmx.toml", some "runtime.num_threads=3"⟩ = .ok above ∧
      (Setting.ofEnvironment environment).SpelledAlike above ∧
      runtimeChapter.Follows (.ofEnvironment environment) above
        { Runtime.standard with poolSize := 3 } ∧
      scopeChapter.Follows (.ofEnvironment environment) above
        { Scope.standard with repositories := ["a"] } := by
  intro environment
  let file : File := ⟨"pmx.toml", some "runtime.num_threads=3"⟩
  let address := Setting.nested ["store", "url"] (.text "u")
  have environment_loads : (Setting.ofEnvironment environment).LoadsWithAddress :=
    ⟨"store", .head _, "u", ⟨.at "u", { Runtime.standard with poolSize := 4 }, .standard,
      { Scope.standard with repositories := ["a"] }⟩, by decide +kernel⟩
  have file_reads : (file.settings.bind fun above => readConfiguration (address.overlay above)) =
      .ok ⟨.at "u", { Runtime.standard with poolSize := 3 }, .standard, .standard⟩ := by
    decide +kernel
  have loads : load (some file) environment =
      .ok ⟨.at "u", { Runtime.standard with poolSize := 3 }, .standard,
        { Scope.standard with repositories := ["a"] }⟩ := by
    decide +kernel
  obtain ⟨above, isFile, isRead⟩ := Outcome.exists_of_bind_eq_ok file_reads
  have file_loads : above.LoadsWithAddress := ⟨"store", .head _, "u", _, isRead⟩
  obtain ⟨together, follows⟩ :=
    load_of_both_sources environment file above isFile environment_loads file_loads
  obtain ⟨-, runtime, -, scope⟩ := follows _ loads
  exact ⟨above, isFile, (together.mp ⟨_, loads⟩).1, runtime, scope⟩

/-- Under two names, the size of the pool is set twice, and nothing is loaded. -/
example :
    load (some ⟨"pmx.toml", some "runtime.num_threads=3"⟩)
        [("PMX_STORE__URL", "u"), ("PMX_RUNTIME__WORKER_POOL_SIZE", "4")] =
      .error ⟨some "pmx.toml", ⟨.repeatedField "worker_pool_size", ["runtime"]⟩⟩ := by
  decide +kernel

end RepoVitals.Config

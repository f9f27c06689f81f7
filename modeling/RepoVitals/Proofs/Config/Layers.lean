import RepoVitals.Proofs.Config.Precedence
/-!
Settings in layers.

Owns:
- what a setting holds under a key, and tables that are told by it;
- settings that commute: it does not matter which of two is laid over the other;
- `Spares`: the layers that leave alone what stands at a path;
- what later layers make of a setting at a path: they may leave it alone, and then it can as well be
  laid over them, or else it is lost;
- the layers of an environment and of a file.
-/

namespace RepoVitals.Config

namespace Setting

/-! ### Keys -/

/-- What stands under a key of a table. -/
def under? (key : String) : Setting → Option Setting
  | .table fields => valueUnder? key fields
  | _ => none

/-- A table, orderly throughout, as every source gives one. -/
structure IsSource (setting : Setting) : Prop where
  isTable : setting.isTable = true
  orderly : setting.Orderly

theorem IsSource.exists_eq_table {setting : Setting} (isSource : setting.IsSource) :
    ∃ fields, setting = .table fields ∧ (Setting.table fields).Orderly := by
  obtain ⟨fields, rfl⟩ := exists_of_isTable isSource.isTable
  exact ⟨fields, rfl, isSource.orderly⟩

theorem IsSource.empty : (Setting.table []).IsSource := ⟨rfl, .empty⟩

theorem IsSource.overlay
    {below above : Setting}
    (isBelow : below.IsSource)
    (isAbove : above.IsSource) :
    (below.overlay above).IsSource := by
  obtain ⟨held, rfl, isHeld⟩ := isBelow.exists_eq_table
  obtain ⟨upper, rfl, isUpper⟩ := isAbove.exists_eq_table
  exact ⟨by rw [overlay_table]; rfl, orderly_overlay isHeld isUpper⟩

theorem IsSource.nested
    {inner : Setting}
    (orderly : inner.Orderly)
    (key : String)
    (path : List String) :
    (nested (key :: path) inner).IsSource :=
  ⟨rfl, orderly_nested orderly (key :: path)⟩

theorem under?_overlay
    {below above : Setting}
    (isAbove : above.IsSource)
    (key : String) :
    (below.overlay above).under? key = overlay? (below.under? key) (above.under? key) := by
  obtain ⟨upper, rfl, isUpper⟩ := isAbove.exists_eq_table
  cases below with
  | table held =>
    rw [overlay_table]
    exact valueUnder?_overlayFields isUpper.unrepeated held key
  | _ =>
    rw [overlay_of_not_tables (by simp [isTable])]
    show _ = overlay? none _
    rfl

theorem orderly_of_under?
    {setting part : Setting}
    {key : String}
    (orderly : setting.Orderly)
    (isPart : setting.under? key = some part) :
    part.Orderly := by
  cases setting with
  | table fields => exact orderly.of_mem (mem_of_valueUnder? isPart)
  | _ => cases isPart

/-- Two sources that hold the same under every key are the same. -/
theorem ext_under?
    {first second : Setting}
    (isFirst : first.IsSource)
    (isSecond : second.IsSource)
    (same : ∀ key, first.under? key = second.under? key) :
    first = second := by
  obtain ⟨fields, rfl, areFields⟩ := isFirst.exists_eq_table
  obtain ⟨others, rfl, areOthers⟩ := isSecond.exists_eq_table
  have sameLedger : (⟨fields, areFields.ascending⟩ : Ledger Setting) =
      ⟨others, areOthers.ascending⟩ := Ledger.ext_get? same
  rw [Ledger.mk.injEq] at sameLedger
  rw [sameLedger]

/-! ### Settings that commute -/

/-- It does not matter which of the two is laid over the other, whatever is below. -/
def Commutes (one other : Setting) : Prop :=
  ∀ below? : Option Setting, (∀ below ∈ below?, below.Orderly) →
    overlay? (overlay? below? (some one)) (some other) =
      overlay? (overlay? below? (some other)) (some one)

/-- What counts below a table: another table, or nothing. -/
def ground : Option Setting → Setting
  | some (.table held) => .table held
  | _ => .table []

theorem isSource_ground
    {below? : Option Setting}
    (areBelow : ∀ below ∈ below?, below.Orderly) :
    (ground below?).IsSource := by
  unfold ground
  split
  · exact ⟨rfl, areBelow _ rfl⟩
  · exact .empty

theorem empty_overlay {above : Setting} (isAbove : above.IsSource) :
    overlay (.table []) above = above :=
  ext_under? (IsSource.empty.overlay isAbove) isAbove fun key => by
    rw [under?_overlay isAbove]
    rfl

theorem overlay?_eq_ground
    {above : Setting}
    (isAbove : above.IsSource)
    (below? : Option Setting) :
    overlay? below? (some above) = some ((ground below?).overlay above) := by
  unfold ground
  split
  · rfl
  · rename_i notTable
    rw [empty_overlay isAbove]
    cases below? with
    | none => rfl
    | some below =>
      refine congrArg some (overlay_of_not_tables fun tables => ?_)
      obtain ⟨held, rfl⟩ := exists_of_isTable tables.1
      exact notTable held rfl

/-- Two sources commute if what both hold under a key does. -/
theorem commutes_of_shared
    {one other : Setting}
    (isOne : one.IsSource)
    (isOther : other.IsSource)
    (shared : ∀ key part part', one.under? key = some part → other.under? key = some part' →
      part.Commutes part') :
    one.Commutes other := by
  intro below? areBelow
  have isGround := isSource_ground areBelow
  have isLeft := (isGround.overlay isOne).overlay isOther
  have isRight := (isGround.overlay isOther).overlay isOne
  rw [overlay?_eq_ground isOne below?, overlay?_eq_ground isOther below?]
  refine congrArg some (ext_under? isLeft isRight fun key => ?_)
  rw [under?_overlay isOther, under?_overlay isOne, under?_overlay isOne, under?_overlay isOther]
  cases isPart : one.under? key with
  | none => rw [overlay?_none, overlay?_none]
  | some part =>
    cases isPart' : other.under? key with
    | none => rw [overlay?_none, overlay?_none]
    | some part' =>
      exact shared key part part' isPart isPart' _ fun inner isInner =>
        orderly_of_under? isGround.orderly isInner

/-! ### Layers that spare a path -/

/-- The layer says nothing at the path, and nothing on the way to it that could take its place. -/
def Spares : List String → Setting → Prop
  | [], _ => False
  | key :: rest, setting =>
    setting.isTable = true ∧ ∀ part, setting.under? key = some part → part.Spares rest

theorem commutes_of_spares
    {inner layer : Setting}
    {path : List String}
    (isInner : inner.Orderly)
    (isLayer : layer.Orderly)
    (spares : layer.Spares path) :
    (nested path inner).Commutes layer := by
  induction path generalizing layer with
  | nil => exact spares.elim
  | cons key rest inductionHypothesis =>
    refine commutes_of_shared (.nested isInner key rest) ⟨spares.1, isLayer⟩
      fun shared part part' isPart isPart' => ?_
    obtain ⟨rfl, rfl⟩ : key = shared ∧ nested rest inner = part := by
      simpa [nested, under?, valueUnder?] using isPart
    exact inductionHypothesis (orderly_of_under? isLayer isPart') (spares.2 part' isPart')

/-! ### Later layers -/

/-- The layers, each laid over what came before it. -/
def stack (below : Setting) (layers : List Setting) : Setting := layers.foldl overlay below

variable {layers : List Setting}

theorem stack_append (below : Setting) (first second : List Setting) :
    stack below (first ++ second) = stack (stack below first) second :=
  List.foldl_append

theorem IsSource.stack
    {below : Setting}
    (isBelow : below.IsSource)
    (areLayers : ∀ layer ∈ layers, layer.IsSource) :
    (stack below layers).IsSource :=
  List.foldlRecOn (motive := IsSource) layers Setting.overlay isBelow fun _ isHeld layer isLayer =>
    isHeld.overlay (areLayers layer isLayer)

/-- What later layers spare can as well be laid over them. -/
theorem stack_overlay_of_spares
    {below inner : Setting}
    {path : List String}
    (isBelow : below.Orderly)
    (isInner : inner.Orderly)
    (areLayers : ∀ layer ∈ layers, layer.IsSource)
    (spare : ∀ layer ∈ layers, layer.Spares path) :
    stack (below.overlay (nested path inner)) layers =
      (stack below layers).overlay (nested path inner) := by
  induction layers generalizing below with
  | nil => rfl
  | cons layer rest inductionHypothesis =>
    obtain ⟨isLayer, areLayers⟩ := List.forall_mem_cons.mp areLayers
    obtain ⟨spares, spare⟩ := List.forall_mem_cons.mp spare
    have commutes : (below.overlay (nested path inner)).overlay layer =
        (below.overlay layer).overlay (nested path inner) :=
      Option.some.inj (commutes_of_spares isInner isLayer.orderly spares (some below)
        fun _ isSame => Option.some.inj isSame ▸ isBelow)
    show stack ((below.overlay (nested path inner)).overlay layer) rest = _
    rw [commutes]
    exact inductionHypothesis (orderly_overlay isBelow isLayer.orderly) areLayers spare

/-- Layers do not tell settings apart under keys where these agree. -/
theorem stack_under?_congr
    {first second : Setting}
    {key : String}
    (areLayers : ∀ layer ∈ layers, layer.IsSource)
    (same : first.under? key = second.under? key) :
    (stack first layers).under? key = (stack second layers).under? key := by
  induction layers generalizing first second with
  | nil => exact same
  | cons layer rest inductionHypothesis =>
    obtain ⟨isLayer, areLayers⟩ := List.forall_mem_cons.mp areLayers
    refine inductionHypothesis areLayers ?_
    rw [under?_overlay isLayer, under?_overlay isLayer, same]

/-- Something is set for a field of a part that is a table. -/
def Sets (part field : String) (setting : Setting) : Prop :=
  ∃ inner, setting.under? part = some (.table inner) ∧ (valueUnder? field inner).isSome

theorem isSome_overlay?_iff {below? above? : Option Setting} :
    (overlay? below? above?).isSome ↔ below?.isSome ∨ above?.isSome := by
  cases below? <;> cases above? <;> simp [overlay?]

theorem sets_overlay
    {below above : Setting}
    {part field : String}
    (isAbove : above.IsSource)
    (spares : above.Spares [part, field])
    (sets : below.Sets part field) :
    (below.overlay above).Sets part field := by
  obtain ⟨inner, isInner, isSet⟩ := sets
  rw [Sets, under?_overlay isAbove, isInner]
  cases isPart : above.under? part with
  | none => exact ⟨inner, rfl, isSet⟩
  | some upper =>
    have isUpper := orderly_of_under? isAbove.orderly isPart
    obtain ⟨isTable, -⟩ := spares.2 upper isPart
    obtain ⟨fields, rfl⟩ := exists_of_isTable isTable
    refine ⟨overlayFields inner fields, congrArg some (overlay_table inner fields), ?_⟩
    rw [valueUnder?_overlayFields isUpper.unrepeated, isSome_overlay?_iff]
    exact .inl isSet

theorem sets_overlay_of_sets
    {below above : Setting}
    {part field : String}
    (isBelow : below.Orderly)
    (isAbove : above.IsSource)
    (sets : above.Sets part field) :
    (below.overlay above).Sets part field := by
  obtain ⟨fields, isUpper, isSet⟩ := sets
  have areFields : (Setting.table fields).IsSource :=
    ⟨rfl, orderly_of_under? isAbove.orderly isUpper⟩
  have areBelow : ∀ held ∈ below.under? part, held.Orderly :=
    fun _ isHeld => orderly_of_under? isBelow isHeld
  obtain ⟨held, isHeld, -⟩ := (isSource_ground areBelow).exists_eq_table
  rw [Sets, under?_overlay isAbove, isUpper, overlay?_eq_ground areFields, isHeld]
  refine ⟨overlayFields held fields, congrArg some (overlay_table held fields), ?_⟩
  rw [valueUnder?_overlayFields areFields.orderly.unrepeated, isSome_overlay?_iff]
  exact .inr isSet

/-- A layer that does not spare a field sets it, or takes the place of its part. -/
theorem sets_or_replaces_of_not_spares
    {layer : Setting}
    {part field : String}
    (isLayer : layer.IsSource)
    (notSpares : ¬layer.Spares [part, field]) :
    layer.Sets part field ∨
      ∃ upper, layer.under? part = some upper ∧ upper.isTable = false := by
  simp only [Spares, isLayer.isTable, true_and, not_forall, not_and] at notSpares
  obtain ⟨upper, isUpper, taken⟩ := notSpares
  by_cases isTable : upper.isTable = true
  · obtain ⟨value, isValue, -⟩ := taken isTable
    obtain ⟨fields, rfl⟩ := exists_of_isTable isTable
    exact .inl ⟨fields, isUpper, Option.isSome_of_eq_some isValue⟩
  · exact .inr ⟨upper, isUpper, Bool.eq_false_iff.mpr isTable⟩

/-- Two settings that agree but for one part become the same under layers that do not spare a field
of this part, or else the layers set the field. -/
theorem stack_eq_or_sets
    {first second : Setting}
    {part field : String}
    (isFirst : first.IsSource)
    (isSecond : second.IsSource)
    (agree : ∀ key, key ≠ part → first.under? key = second.under? key)
    (areLayers : ∀ layer ∈ layers, layer.IsSource)
    (notSpared : ¬∀ layer ∈ layers, layer.Spares [part, field]) :
    stack first layers = stack second layers ∨ (stack second layers).Sets part field := by
  induction layers using List.reverseRecOn with
  | nil => exact absurd (List.forall_mem_nil _) notSpared
  | append_singleton front layer inductionHypothesis =>
    obtain ⟨areFront, isLayer⟩ := List.forall_mem_append.mp areLayers
    replace isLayer := isLayer layer List.mem_cons_self
    have isFirst' := isFirst.stack areFront
    have isSecond' := isSecond.stack areFront
    rw [stack_append, stack_append]
    show (stack first front).overlay layer = (stack second front).overlay layer ∨
      ((stack second front).overlay layer).Sets part field
    by_cases spares : layer.Spares [part, field]
    · rw [List.forall_mem_append, List.forall_mem_singleton] at notSpared
      rcases inductionHypothesis areFront fun spared => notSpared ⟨spared, spares⟩ with same | sets
      · exact .inl (by rw [same])
      · exact .inr (sets_overlay isLayer spares sets)
    · rcases sets_or_replaces_of_not_spares isLayer spares with sets | replaces
      · exact .inr (sets_overlay_of_sets isSecond'.orderly isLayer sets)
      · obtain ⟨upper, isUpper, notTable⟩ := replaces
        left
        refine ext_under? (isFirst'.overlay isLayer) (isSecond'.overlay isLayer) fun key => ?_
        rw [under?_overlay isLayer, under?_overlay isLayer]
        by_cases same : key = part
        · have plain : ∀ upper', layer.under? part = some upper' → ¬upper'.isTable := by
            rw [isUpper]
            rintro _ ⟨⟩
            exact Bool.eq_false_iff.mp notTable
          rw [same, overlay?_of_plain plain, overlay?_of_plain plain, isUpper]
          rfl
        · rw [stack_under?_congr areFront (agree key same)]

end Setting

/-! ### Layers of sources -/

/-- The layers of an environment: what each variable says, from the first one on. -/
def environmentLayers (environment : Environment) : List Setting :=
  environment.filterMap fun entry =>
    (pathOfName? entry.1).map fun path => Setting.nested path (.ofLiteral entry.2)

/-- The layer of a file, if one is named and can be read. -/
def fileLayers (file : Option File) : List Setting :=
  match file.map File.settings with
  | some (.ok above) => [above]
  | _ => []

/-- What comes after some variable: the rest of the environment, and the file. -/
def laterLayers (file : Option File) (after : Environment) : List Setting :=
  environmentLayers after ++ fileLayers file

theorem laterLayers_append (file : Option File) (before after : Environment) :
    laterLayers file (before ++ after) = environmentLayers before ++ laterLayers file after := by
  rw [laterLayers, environmentLayers, List.filterMap_append, List.append_assoc]
  rfl

theorem laterLayers_cons
    (file : Option File)
    {variableName : String}
    {path : List String}
    (isVariable : pathOfName? variableName = some path)
    (value : String)
    (after : Environment) :
    laterLayers file ((variableName, value) :: after) =
      .nested path (.ofLiteral value) :: laterLayers file after := by
  rw [laterLayers, environmentLayers, List.filterMap_cons, isVariable]
  rfl

theorem isSource_environmentLayers (environment : Environment) :
    ∀ layer ∈ environmentLayers environment, layer.IsSource := by
  intro layer isLayer
  obtain ⟨entry, -, isLayer⟩ := List.mem_filterMap.mp isLayer
  obtain ⟨path, isPath, rfl⟩ := Option.map_eq_some_iff.mp isLayer
  obtain ⟨key, others, rfl⟩ := List.exists_cons_of_ne_nil (pathOfName?_ne_nil isPath)
  exact .nested (Setting.orderly_ofLiteral entry.2) key others

theorem isSource_laterLayers (file : Option File) (after : Environment) :
    ∀ layer ∈ laterLayers file after, layer.IsSource := by
  refine List.forall_mem_append.mpr ⟨isSource_environmentLayers after, fun layer isLayer => ?_⟩
  unfold fileLayers at isLayer
  split at isLayer
  · rename_i above isFile
    obtain ⟨named, -, isRead⟩ := Option.map_eq_some_iff.mp isFile
    obtain ⟨fields, isTable, orderly⟩ := File.settings_eq_table isRead
    rw [List.mem_singleton.mp isLayer, isTable]
    exact ⟨rfl, orderly⟩
  · cases isLayer

theorem ofEnvironment_eq_stack (environment : Environment) :
    Setting.ofEnvironment environment = .stack (.table []) (environmentLayers environment) := by
  rw [Setting.stack, environmentLayers, List.foldl_filterMap, Setting.ofEnvironment]
  congr 1
  funext held entry
  cases pathOfName? entry.1 <;> rfl

/-- The file can be read, if one is named. -/
def File.Readable (file : Option File) : Prop := ∀ named ∈ file, ∃ above, named.settings = .ok above

/-- The settings of both sources are all their layers, if the file can be read. -/
theorem settingsOf_eq_ok_iff (file : Option File) (environment : Environment) (settings : Setting) :
    settingsOf file environment = .ok settings ↔
      File.Readable file ∧ settings = .stack (.table []) (laterLayers file environment) := by
  rw [laterLayers, Setting.stack_append, ← ofEnvironment_eq_stack, File.Readable, fileLayers]
  cases file with
  | none =>
    simp only [Option.map_none, Option.not_mem_none, false_imp_iff, implies_true, true_and]
    exact ⟨fun isOk => (Except.ok.inj isOk).symm, fun same => congrArg Except.ok same.symm⟩
  | some named =>
    simp only [Option.map_some, Option.mem_some_iff, forall_eq']
    have joined : settingsOf (some named) environment =
        named.settings >>= fun above => .ok ((Setting.ofEnvironment environment).overlay above) :=
      rfl
    rw [joined]
    cases named.settings with
    | ok above =>
      refine ⟨fun isOk => ⟨⟨above, rfl⟩, (Except.ok.inj isOk).symm⟩, ?_⟩
      rintro ⟨-, rfl⟩
      rfl
    | error fault => exact ⟨nofun, fun ⟨⟨_, isOk⟩, _⟩ => nomatch isOk⟩

/-- A configuration is what all layers together are read as. -/
theorem load_eq_ok_iff_stack
    (file : Option File)
    (environment : Environment)
    (configuration : Configuration) :
    load file environment = .ok configuration ↔
      File.Readable file ∧
        readConfiguration (.stack (.table []) (laterLayers file environment)) =
          .ok configuration := by
  have mapped (reading : Reading Configuration) :
      reading.mapError (fun fault => (⟨file.map File.path, fault⟩ : LoadFailure)) =
        .ok configuration ↔ reading = .ok configuration := by
    cases reading with
    | ok other => exact ⟨fun isOk => congrArg _ (Except.ok.inj isOk),
        fun isOk => congrArg _ (Except.ok.inj isOk)⟩
    | error fault => exact ⟨nofun, nofun⟩
  rw [load, mapped]
  constructor
  · intro isOk
    obtain ⟨settings, areSettings, isRead⟩ := Outcome.exists_of_bind_eq_ok isOk
    obtain ⟨readable, rfl⟩ := (settingsOf_eq_ok_iff file environment settings).mp areSettings
    exact ⟨readable, isRead⟩
  · rintro ⟨readable, isRead⟩
    rw [(settingsOf_eq_ok_iff file environment _).mpr ⟨readable, rfl⟩]
    exact isRead

end RepoVitals.Config

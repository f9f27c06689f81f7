import RepoVitals.Proofs.Config.Layers
import RepoVitals.Proofs.Config.Verbatim
/-!
Credentials from the environment.

Owns:
- the credentials of the cluster, with the variables that set them;
- what a setting under one of them makes of a configuration that loads without it;
- `credential_arrives_iff`: a configuration is loaded in which a credential is the text of its
  variable exactly if that text does not look like something else, nothing later takes its place,
  and whatever else is said about the cluster is said in a table under the usual key.
-/

namespace RepoVitals.Config

/-! ### Credentials -/

/-- What tells the cluster who is speaking. -/
inductive Credential where
  | username
  | password
  | apiKey
  deriving DecidableEq

namespace Credential

/-- The field of a credential. -/
def name : Credential → String
  | .username => "username"
  | .password => "password"
  | .apiKey => "api_key"

/-- The variable that sets a credential, as it is usually written. -/
def variableName : Credential → String
  | .username => "PMX_STORE__USERNAME"
  | .password => "PMX_STORE__PASSWORD"
  | .apiKey => "PMX_STORE__API_KEY"

/-- The credential that a configuration of the cluster holds. -/
def value : Credential → Store → Option String
  | .username => Store.username
  | .password => Store.password
  | .apiKey => Store.apiKey

/-- The same cluster with this credential. -/
def giveTo (credential : Credential) (content : String) (store : Store) : Store :=
  match credential with
  | .username => { store with username := some content }
  | .password => { store with password := some content }
  | .apiKey => { store with apiKey := some content }

/-- The same configuration with this credential. -/
def give (credential : Credential) (content : String) (configuration : Configuration) :
    Configuration :=
  { configuration with store := credential.giveTo content configuration.store }

/-- The setting that gives only this credential. -/
def nested (credential : Credential) (part : Setting) : Setting :=
  Setting.nested ["store", credential.name] part

/-- The only entry of this setting. -/
def entries (credential : Credential) (part : Setting) : List (String × Setting) :=
  [("store", .table [(credential.name, part)])]

theorem nested_eq_table (credential : Credential) (part : Setting) :
    credential.nested part = .table (credential.entries part) :=
  rfl

theorem pathOfName?_variableName (credential : Credential) :
    pathOfName? credential.variableName = some ["store", credential.name] := by
  cases credential <;> decide +kernel

theorem value_give (credential : Credential) (content : String) (configuration : Configuration) :
    credential.value (credential.give content configuration).store = some content := by
  cases credential <;> rfl

/-- The field of a credential in the part about the cluster. -/
theorem find?_storeFields (credential : Credential) :
    storeFields.find? (fun field => field.answersTo credential.name) =
      some (.of readOptionalText credential.name [] false) := by
  cases credential <;> rfl

theorem nameOf?_name (credential : Credential) :
    nameOf? storeFields credential.name = some credential.name := by
  rw [nameOf?, find?_storeFields]
  rfl

theorem mem_storeKnobs (credential : Credential) :
    (⟨credential.name, readOptionalText, credential.value⟩ : Knob Store) ∈ storeKnobs := by
  cases credential
  · exact .tail _ (.head _)
  · exact .tail _ (.tail _ (.head _))
  · exact .tail _ (.tail _ (.tail _ (.head _)))

end Credential

/-! ### Single settings -/

section

variable {fields : List Field} {key : String} {part : Setting}

theorem given?_single
    {name : String}
    (isName : nameOf? fields key = some name)
    (other : String) :
    (Setting.table [(key, part)]).given? fields other =
      if name = other then some part else none := by
  simp only [Setting.given?, Setting.parts, List.filterMap_cons, isName, Option.map_some,
    List.filterMap_nil]
  rfl

theorem proper_single_iff {Passes : Field → Setting → Prop} :
    (Setting.table [(key, part)]).Proper fields Passes ↔
      ∀ field, fields.find? (fun field => field.answersTo key) = some field →
        Passes field part := by
  simp [Setting.Proper, Alike]

end

theorem nameOf?_storeFields
    {key name : String}
    (isName : nameOf? storeFields key = some name) :
    name = key := by
  obtain ⟨field, isField, rfl⟩ := Option.map_eq_some_iff.mp isName
  have answers : field.answersTo key = true :=
    List.find?_some (p := (Field.answersTo · key)) isField
  have unspelled : ∀ field ∈ storeFields, field.spellings = [] := by
    simp [storeFields, Field.of]
  rw [Field.answersTo, unspelled field (List.mem_of_find?_eq_some isField)] at answers
  simpa using answers

theorem accepts_optionalText_iff {name : String} {spellings : List String} {part : Setting} :
    (Field.of readOptionalText name spellings false).Accepts part ↔
      ∃ content, part.readText = .ok content := by
  show (part.readText.map some).map _ = _ ↔ _
  cases part.readText with
  | ok content => exact ⟨fun _ => ⟨content, rfl⟩, fun _ => rfl⟩
  | error fault => exact ⟨nofun, fun ⟨_, isOk⟩ => nomatch isOk⟩

/-! ### A credential laid over a configuration -/

namespace Credential

variable {credential : Credential} {part : Setting}

theorem given?_nested (credential : Credential) (part : Setting) (name : String) :
    (credential.nested part).given? configurationFields name =
      if "store" = name then some (.table [(credential.name, part)]) else none :=
  given?_single rfl name

/-- A credential sets itself and nothing else about the cluster. -/
theorem set?_nested (credential : Credential) (part : Setting) (name : String) :
    storeChapter.set? (credential.nested part) name =
      if credential.name = name then some part else none := by
  rw [Chapter.set?, given?_nested]
  exact given?_single credential.nameOf?_name name

theorem isSource_nested (orderly : part.Orderly) : (credential.nested part).IsSource :=
  .nested orderly "store" [credential.name]

theorem proper_nested_iff (credential : Credential) (part : Setting) :
    (credential.nested part).Proper configurationFields Field.Suits ↔
      ∃ content, part.readText = .ok content := by
  have isStore : configurationFields.find? (fun field => field.answersTo "store") =
      some (.of readStore "store" ["opensearch"] true) := rfl
  show (Setting.table [("store", Setting.table [(credential.name, part)])]).Proper _ _ ↔ _
  rw [proper_single_iff, isStore]
  simp only [Option.some.injEq, forall_eq']
  show (Setting.table [(credential.name, part)]).Proper storeFields Field.Accepts ↔ _
  rw [proper_single_iff, credential.find?_storeFields]
  simp only [Option.some.injEq, forall_eq']
  exact accepts_optionalText_iff

/-- The parts about the cluster always spell a credential alike. -/
theorem concordant_nested (other part : Setting) (name : String) :
    other.Concordant storeFields (fun _ _ _ => True) (.table [(name, part)]) := by
  cases other with
  | table inner =>
    refine ⟨fun key _ key' _ shared isName isName' => ?_, fun _ _ _ _ _ _ _ => trivial⟩
    exact (nameOf?_storeFields isName).symm.trans (nameOf?_storeFields isName')
  | _ => trivial

/-- The credential is spelled alike in a configuration that has its part about the cluster under the
usual key. -/
theorem spelledAlike_iff
    (credential : Credential)
    (part : Setting)
    {rest : List (String × Setting)}
    (proper : (Setting.table rest).Proper configurationFields Field.Suits)
    (isGiven : ((Setting.table rest).given? configurationFields "store").isSome) :
    (Setting.table rest).SpelledAlike (credential.nested part) ↔
      "store" ∈ rest.map Prod.fst := by
  constructor
  · rintro ⟨alike, -⟩
    by_contra absent
    have unnamed : ∀ key ∈ rest.map Prod.fst, nameOf? configurationFields key ≠ some "store" :=
      fun key isKey isName =>
        absent (alike key isKey "store" List.mem_cons_self "store" isName rfl ▸ isKey)
    exact Option.isSome_iff_ne_none.mp isGiven (given?_of_none unnamed)
  · intro isKey
    refine ⟨fun key isKey' key' isStore name isName isName' => ?_, ?_⟩
    · obtain rfl : key' = "store" := List.mem_singleton.mp isStore
      exact proper.1 key isKey' "store" isKey name isName isName'
    · intro key other part' _ isPart' field isField
      obtain ⟨rfl, rfl⟩ : "store" = key ∧ Setting.table [(credential.name, part)] = part' := by
        simpa [valueUnder?] using isPart'
      obtain rfl := Option.some.inj isField
      exact concordant_nested other part credential.name

/-! ### What is loaded with a credential -/

section

variable {rest : List (String × Setting)} {configuration : Configuration}

/-- A part of a configuration that a credential has nothing to do with. -/
theorem comes_unique
    {Record : Type}
    {chapter : Chapter Record}
    {source source' : Setting}
    {record record' : Record}
    (same : source.given? configurationFields chapter.name =
      source'.given? configurationFields chapter.name)
    (comes : chapter.Comes source record)
    (comes' : chapter.Comes source' record') :
    record = record' := by
  rw [Chapter.Comes, same] at comes
  rw [Chapter.Comes] at comes'
  cases isGiven : source'.given? configurationFields chapter.name with
  | none =>
    rw [isGiven] at comes comes'
    exact comes.trans comes'.symm
  | some part =>
    rw [isGiven] at comes comes'
    exact Except.ok.inj (comes.symm.trans comes')

theorem settles_unique
    {Record : Type}
    {knob : Knob Record}
    {usual record record' : Record}
    {given? : Option Setting}
    (settles : knob.Settles usual given? record)
    (settles' : knob.Settles usual given? record') :
    knob.value record = knob.value record' := by
  cases given? with
  | none => exact settles.trans settles'.symm
  | some part => exact Except.ok.inj (settles.symm.trans settles')

/-- Two clusters whose knobs all stand alike but for one credential. -/
theorem eq_giveTo
    {store store' : Store}
    {content : String}
    (sets : credential.value store' = some content)
    (others : ∀ knob ∈ storeKnobs, knob.name ≠ credential.name →
      knob.value store' = knob.value store) :
    store' = credential.giveTo content store := by
  obtain ⟨url, username, password, apiKey, connect, request, compress⟩ := store
  obtain ⟨url', username', password', apiKey', connect', request', compress'⟩ := store'
  simp only [storeKnobs, List.forall_mem_cons] at others
  cases credential <;> simp_all [value, giveTo, name]

theorem comes_of_readConfiguration
    {source : Setting}
    {loaded : Configuration}
    (orderly : source.Orderly)
    (isRead : readConfiguration source = .ok loaded) :
    storeChapter.Comes source loaded.store ∧ runtimeChapter.Comes source loaded.runtime ∧
      indexChapter.Comes source loaded.index ∧ scopeChapter.Comes source loaded.scope := by
  obtain ⟨parts, areParts, -⟩ := Outcome.exists_of_bind_eq_ok isRead
  obtain ⟨other, isOther, comes⟩ := readConfiguration_of_record orderly areParts
  exact Except.ok.inj (isRead.symm.trans isOther) ▸ comes

/-- What stands of the rest and a credential laid over it. -/
theorem winner?_nested
    (part : Setting)
    {held : Setting}
    (proper : (Setting.table rest).Proper configurationFields Field.Suits)
    (isHeld : (Setting.table rest).under? "store" = some held)
    (name : String) :
    storeChapter.winner? (.table rest) (credential.nested part) name =
      if credential.name = name then some part
      else if held.isTable then storeChapter.set? (.table rest) name
      else none := by
  have isStore : (Setting.table rest).given? configurationFields storeChapter.name = some held :=
    given?_of_valueUnder? proper.1 rfl isHeld
  have stands : storeChapter.stands (.table rest) (credential.nested part) = held.isTable := by
    rw [Chapter.stands, isStore, given?_nested]
    exact Bool.and_true _
  rw [Chapter.winner?, set?_nested, stands]
  split <;> rfl

theorem name_ne_url (credential : Credential) : credential.name ≠ "url" := by
  cases credential <;> decide

/-- Together with a credential, a configuration loads exactly if the credential is text and the rest
has its part about the cluster as a table under the usual key. -/
theorem exists_readConfiguration_overlay_nested_iff
    (orderly : (Setting.table rest).Orderly)
    (isRead : readConfiguration (.table rest) = .ok configuration)
    (isPart : part.Orderly) :
    (∃ loaded, readConfiguration ((Setting.table rest).overlay (credential.nested part)) =
        .ok loaded) ↔
      (∃ content, part.readText = .ok content) ∧
        ∃ inner, (Setting.table rest).under? "store" = some (.table inner) := by
  have isUpper : (Setting.table (credential.entries part)).Orderly :=
    (isSource_nested isPart).orderly
  have isTogether := Setting.orderly_overlay orderly isUpper
  have split := passJoined_sources.split _ _ orderly isUpper
  obtain ⟨proper, isSet⟩ := (exists_readConfiguration_iff orderly).mp ⟨_, isRead⟩
  have join := passJoined_sources.join _ _ orderly isUpper proper
  have isGiven : ((Setting.table rest).given? configurationFields "store").isSome := by
    obtain ⟨address, isAddress⟩ := Option.isSome_iff_exists.mp isSet
    obtain ⟨store, isStore, -⟩ := Option.bind_eq_some_iff.mp isAddress
    exact Option.isSome_of_eq_some isStore
  have alike_iff := spelledAlike_iff credential part proper isGiven
  rw [nested_eq_table] at alike_iff ⊢
  rw [Setting.overlay_table] at isTogether split join ⊢
  rw [exists_readConfiguration_iff isTogether, ← proper_nested_iff credential part]
  constructor
  · rintro ⟨together, isSet'⟩
    obtain ⟨properUpper, alike⟩ := split together
    refine ⟨properUpper, ?_⟩
    rw [storeChapter.set?_overlay orderly isUpper together] at isSet'
    cases isHeld : (Setting.table rest).under? "store" with
    | none => exact absurd (alike_iff.mp alike) (valueUnder?_eq_none_iff.mp isHeld)
    | some held =>
      rw [← nested_eq_table, winner?_nested part proper isHeld,
        if_neg credential.name_ne_url] at isSet'
      cases held with
      | table inner => exact ⟨inner, rfl⟩
      | _ => cases isSet'
  · rintro ⟨properUpper, inner, isHeld⟩
    have together := join properUpper
      (alike_iff.mpr (List.mem_map_of_mem (mem_of_valueUnder? isHeld)))
    refine ⟨together, ?_⟩
    rw [storeChapter.set?_overlay orderly isUpper together, ← nested_eq_table,
      winner?_nested part proper isHeld, if_neg credential.name_ne_url]
    exact isSet

/-- Whatever is loaded together with a credential is the rest with its text. -/
theorem eq_give_of_readConfiguration
    (orderly : (Setting.table rest).Orderly)
    (isRead : readConfiguration (.table rest) = .ok configuration)
    (isPart : part.Orderly)
    {loaded : Configuration}
    (isLoaded : readConfiguration ((Setting.table rest).overlay (credential.nested part)) =
      .ok loaded) :
    ∃ content, part.readText = .ok content ∧ loaded = credential.give content configuration := by
  have isUpper : (Setting.table (credential.entries part)).Orderly :=
    (isSource_nested isPart).orderly
  have isTogether := Setting.orderly_overlay orderly isUpper
  obtain ⟨⟨content, isContent⟩, inner, isHeld⟩ :=
    (exists_readConfiguration_overlay_nested_iff orderly isRead isPart).mp ⟨loaded, isLoaded⟩
  rw [nested_eq_table, Setting.overlay_table] at isLoaded
  rw [Setting.overlay_table] at isTogether
  obtain ⟨proper, -⟩ := (exists_readConfiguration_iff isTogether).mp ⟨_, isLoaded⟩
  obtain ⟨restProper, -⟩ := (exists_readConfiguration_iff orderly).mp ⟨_, isRead⟩
  obtain ⟨store, runtime, index, scope⟩ := comes_of_readConfiguration orderly isRead
  obtain ⟨store', runtime', index', scope'⟩ := comes_of_readConfiguration isTogether isLoaded
  have given (name : String) (notStore : "store" ≠ name) :
      (Setting.table (Setting.overlayFields rest (credential.entries part))).given?
        configurationFields name = (Setting.table rest).given? configurationFields name := by
    rw [given?_overlayFields isUpper.unrepeated proper.1, ← nested_eq_table, given?_nested,
      if_neg notStore, Setting.overlay?_none]
  have set (name : String) :
      storeChapter.set? (.table (Setting.overlayFields rest (credential.entries part))) name =
        if credential.name = name then some part else storeChapter.set? (.table rest) name := by
    rw [storeChapter.set?_overlay orderly isUpper proper, ← nested_eq_table,
      winner?_nested part restProper isHeld]
    rfl
  have sets : readOptionalText part = .ok (credential.value loaded.store) := by
    have settles := storeChapter.settles_of_comes isTogether store' _ credential.mem_storeKnobs
    rwa [set, if_pos rfl] at settles
  have others (knob : Knob Store) (isKnob : knob ∈ storeKnobs)
      (differs : knob.name ≠ credential.name) :
      knob.value loaded.store = knob.value configuration.store := by
    have settles' := storeChapter.settles_of_comes isTogether store' knob isKnob
    rw [set, if_neg (Ne.symm differs)] at settles'
    exact settles_unique settles' (storeChapter.settles_of_comes orderly store knob isKnob)
  refine ⟨content, isContent, ?_⟩
  rw [readOptionalText, isContent] at sets
  have sameStore := eq_giveTo (Except.ok.inj sets).symm others
  have sameRuntime := comes_unique (given "runtime" (by decide)) runtime' runtime
  have sameIndex := comes_unique (given "index_settings" (by decide)) index' index
  have sameScope := comes_unique (given "run" (by decide)) scope' scope
  rw [give, ← sameStore, ← sameRuntime, ← sameIndex, ← sameScope]

/-- Where the rest sets nothing for a credential, nothing stands under its key. -/
theorem not_sets_of_unset
    (orderly : (Setting.table rest).Orderly)
    (isRead : readConfiguration (.table rest) = .ok configuration)
    (unset : credential.value configuration.store = none) :
    ¬(Setting.table rest).Sets "store" credential.name := by
  rintro ⟨inner, isHeld, isSet⟩
  obtain ⟨part, isPart⟩ := Option.isSome_iff_exists.mp isSet
  obtain ⟨proper, -⟩ := (exists_readConfiguration_iff orderly).mp ⟨_, isRead⟩
  have isStore : (Setting.table rest).given? configurationFields "store" = some (.table inner) :=
    given?_of_valueUnder? proper.1 rfl isHeld
  obtain ⟨field, -, isName, suits⟩ := proper.exists_of_given isStore
  rw [Field.Suits, isName] at suits
  have isGiven : (Setting.table inner).given? storeFields credential.name = some part :=
    given?_of_valueUnder? suits.1 credential.nameOf?_name isPart
  have settles := storeChapter.settles_of_comes orderly
    (comes_of_readConfiguration orderly isRead).1 _ credential.mem_storeKnobs
  have isSet' : storeChapter.set? (.table rest) credential.name = some part := by
    show ((Setting.table rest).given? configurationFields "store").bind _ = _
    rw [isStore]
    exact isGiven
  rw [isSet'] at settles
  have isNone : readOptionalText part = .ok none := unset ▸ settles
  obtain ⟨_, -, isSome⟩ := Outcome.exists_of_map_eq_ok isNone
  cases isSome

/-- The text of a variable is the credential in what is loaded exactly if it looks like nothing but
text. -/
theorem readConfiguration_overlay_ofLiteral_iff
    (credential : Credential)
    {value : String}
    (orderly : (Setting.table rest).Orderly)
    (isRead : readConfiguration (.table rest) = .ok configuration)
    (trimmed : Text.trimBlanks value.toList = value.toList)
    (loaded : Configuration) :
    (readConfiguration ((Setting.table rest).overlay (credential.nested (.ofLiteral value))) =
        .ok loaded ∧ credential.value loaded.store = some value) ↔
      (¬Mistaken value.toList ∧
        ∃ inner, (Setting.table rest).under? "store" = some (.table inner)) ∧
        loaded = credential.give value configuration := by
  have isPart := Setting.orderly_ofLiteral value
  have exists_iff := credential.exists_readConfiguration_overlay_nested_iff orderly isRead isPart
  constructor
  · rintro ⟨isLoaded, isValue⟩
    obtain ⟨-, isHeld⟩ := exists_iff.mp ⟨loaded, isLoaded⟩
    obtain ⟨content, isContent, rfl⟩ :=
      credential.eq_give_of_readConfiguration orderly isRead isPart isLoaded
    rw [value_give, Option.some.injEq] at isValue
    subst isValue
    exact ⟨⟨(readText_ofLiteral_iff trimmed).mp isContent, isHeld⟩, rfl⟩
  · rintro ⟨⟨plain, isHeld⟩, rfl⟩
    have isContent := (readText_ofLiteral_iff trimmed).mpr plain
    obtain ⟨loaded, isLoaded⟩ := exists_iff.mpr ⟨⟨value, isContent⟩, isHeld⟩
    obtain ⟨content, isContent', rfl⟩ :=
      credential.eq_give_of_readConfiguration orderly isRead isPart isLoaded
    obtain rfl := Except.ok.inj (isContent.symm.trans isContent')
    exact ⟨isLoaded, value_give credential value configuration⟩

/-- Under layers that do not all spare it, a credential that the rest leaves open is lost. -/
theorem stack_of_not_spared
    {base : Setting}
    {layers : List Setting}
    (isBase : base.IsSource)
    (areLayers : ∀ layer ∈ layers, layer.IsSource)
    (isPart : part.Orderly)
    (isStack : Setting.stack base layers = .table rest)
    (isRead : readConfiguration (.table rest) = .ok configuration)
    (unset : credential.value configuration.store = none)
    (notSpared : ¬∀ layer ∈ layers, layer.Spares ["store", credential.name]) :
    Setting.stack (base.overlay (credential.nested part)) layers = .table rest := by
  have isUpper := credential.isSource_nested isPart
  have agree (key : String) (differs : key ≠ "store") :
      (base.overlay (credential.nested part)).under? key = base.under? key := by
    have isNone : (credential.nested part).under? key = none := if_neg (Ne.symm differs)
    rw [Setting.under?_overlay isUpper, isNone, Setting.overlay?_none]
  have orderly : (Setting.table rest).Orderly := isStack ▸ (isBase.stack areLayers).orderly
  have lost :=
    Setting.stack_eq_or_sets (isBase.overlay isUpper) isBase agree areLayers notSpared
  rw [isStack] at lost
  exact lost.resolve_right (credential.not_sets_of_unset orderly isRead unset)

end

/-! ### Arriving -/

/-- The text of a variable gets through to the credential.  Before and after it stand the other
variables. -/
structure Arrives
    (credential : Credential)
    (value : String)
    (file : Option File)
    (before after : Environment) : Prop where
  /-- It looks like nothing but text. -/
  plain : ¬Mistaken value.toList
  /-- Nothing that is laid over it takes its place. -/
  kept : ∀ layer ∈ laterLayers file after, layer.Spares ["store", credential.name]
  /-- What else is said about the cluster is a table under the usual key. -/
  joined : ∃ settings inner, settingsOf file (before ++ after) = .ok settings ∧
    settings.under? "store" = some (.table inner)

end Credential

/-- **A credential from the environment arrives as it is written unless it looks like something
else.**

Take an environment and a file that load together and leave a credential open, and put in a variable
that sets the credential to a text without blanks around it.  A configuration with this text as its
credential is loaded exactly if the text does not look like a truth value, a number, a quoted text,
a list or a table, nothing later takes its place, and the rest has its part about the cluster as a
table under the usual key.  Everything else is loaded as before. -/
theorem credential_arrives_iff
    (credential : Credential)
    (file : Option File)
    (before after : Environment)
    (variableName value : String)
    (configuration : Configuration)
    (isVariable : pathOfName? variableName = some ["store", credential.name])
    (trimmed : Text.trimBlanks value.toList = value.toList)
    (loads : load file (before ++ after) = .ok configuration)
    (unset : credential.value configuration.store = none)
    (loaded : Configuration) :
    (load file (before ++ (variableName, value) :: after) = .ok loaded ∧
        credential.value loaded.store = some value) ↔
      credential.Arrives value file before after ∧
        loaded = credential.give value configuration := by
  have isPart := Setting.orderly_ofLiteral value
  have areLater := isSource_laterLayers file after
  have isBase := Setting.IsSource.empty.stack (isSource_environmentLayers before)
  obtain ⟨readable, isRead⟩ := (load_eq_ok_iff_stack file _ configuration).mp loads
  have areSettings := (settingsOf_eq_ok_iff file (before ++ after) _).mpr ⟨readable, rfl⟩
  rw [laterLayers_append, Setting.stack_append] at isRead areSettings
  rw [load_eq_ok_iff_stack, and_iff_right readable, laterLayers_append,
    laterLayers_cons file isVariable, Setting.stack_append]
  generalize Setting.stack (.table []) (environmentLayers before) = base at *
  show readConfiguration (.stack (base.overlay (credential.nested (.ofLiteral value))) _) = _ ∧
    _ ↔ _
  obtain ⟨rest, isTable, orderly⟩ := (isBase.stack areLater).exists_eq_table
  rw [isTable] at isRead areSettings
  by_cases kept : ∀ layer ∈ laterLayers file after, layer.Spares ["store", credential.name]
  · rw [Credential.nested, Setting.stack_overlay_of_spares isBase.orderly isPart areLater kept,
      isTable, ← Credential.nested,
      credential.readConfiguration_overlay_ofLiteral_iff orderly isRead trimmed loaded]
    refine and_congr_left fun _ => ⟨?_, ?_⟩
    · rintro ⟨plain, inner, isHeld⟩
      exact ⟨plain, kept, _, inner, areSettings, isHeld⟩
    · rintro ⟨plain, -, settings, inner, isSettings, isHeld⟩
      obtain rfl := Except.ok.inj (areSettings.symm.trans isSettings)
      exact ⟨plain, inner, isHeld⟩
  · rw [Credential.stack_of_not_spared isBase areLater isPart isTable isRead unset kept, isRead]
    constructor
    · rintro ⟨isLoaded, isValue⟩
      rw [← Except.ok.inj isLoaded, unset] at isValue
      cases isValue
    · rintro ⟨arrives, -⟩
      exact absurd arrives.kept kept

/-- A password with letters arrives; one of digits only is taken for a number, and nothing is
loaded. -/
theorem password_arrives_unless_digits :
    let address : Environment := [("PMX_STORE__URL", "u")]
    let configuration : Configuration := ⟨.at "u", .standard, .standard, .standard⟩
    load none (address ++ [("PMX_STORE__PASSWORD", "s3cret")]) =
        .ok (Credential.password.give "s3cret" configuration) ∧
      load none (address ++ [("PMX_STORE__PASSWORD", "12345678")]) =
        .error ⟨none, ⟨.wrongType, ["store", "password"]⟩⟩ := by
  intro address configuration
  have loads : load none address = .ok configuration := by decide +kernel
  have arrives := credential_arrives_iff .password none address [] "PMX_STORE__PASSWORD" "s3cret"
    configuration (Credential.pathOfName?_variableName .password) (by decide +kernel) loads rfl
  have plain : ¬Mistaken "s3cret".toList := by
    rintro (_ | _ | ⟨spells⟩ | ⟨opener, -⟩)
    · obtain ⟨first, rest, isFirst, starts⟩ := spells.startsNumber
      obtain ⟨rfl, -⟩ := List.cons.inj isFirst
      exact absurd starts (by decide)
    · exact absurd opener (by decide)
  have joined : ∃ settings inner, settingsOf none address = .ok settings ∧
      settings.under? "store" = some (.table inner) :=
    ⟨_, [("url", .text "u")], rfl, rfl⟩
  refine ⟨((arrives _).mpr ⟨⟨plain, nofun, joined⟩, rfl⟩).1, ?_⟩
  decide +kernel

/-- Quotes are taken off, and what looks like a list or a truth value is none of the texts. -/
example :
    ["'x'", "\"quoted\"", "[a]", "true", "1.5", "[open"].map (fun value =>
      (load none [("PMX_STORE__URL", "u"), ("PMX_STORE__API_KEY", value)]).toOption.map
        fun loaded => loaded.store.apiKey) =
      [some (some "x"), some (some "quoted"), none, none, none, some (some "[open")] := by
  decide +kernel

end RepoVitals.Config

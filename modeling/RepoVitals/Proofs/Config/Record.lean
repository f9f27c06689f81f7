import RepoVitals.Config.Record
import RepoVitals.Proofs.Config.Orderly
/-!
What records give for their fields.

Owns:
- the names of the fields that keys stand for, and the parts that a table or a list gives for them;
- `Proper`: a record that spells no field in two ways, and whose parts pass a check;
- `readRecord_eq_ok_iff`: a record can be read exactly if it is proper and no field is missing.
-/

namespace RepoVitals.Config

variable {fields : List Field}

/-! ### Readings -/

theorem Reading.ok_bind {α β : Type} (result : α) (next : α → Reading β) :
    (Except.ok result : Reading α) >>= next = next result :=
  rfl

theorem Reading.under_eq_ok_iff {α : Type} {reading : Reading α} {key : String} {result : α} :
    reading.under key = .ok result ↔ reading = .ok result := by
  cases reading with
  | ok between => exact Iff.rfl
  | error fault => exact ⟨nofun, nofun⟩

/-! ### Fields -/

/-- The name of the field that a key stands for. -/
def nameOf? (fields : List Field) (key : String) : Option String :=
  (fields.find? (fun field => field.answersTo key)).map Field.name

/-- Where both tables give the same field, they spell it in the same way. -/
def Alike (fields : List Field) (held above : List (String × Setting)) : Prop :=
  ∀ key ∈ held.map Prod.fst, ∀ key' ∈ above.map Prod.fst, ∀ name, nameOf? fields key = some name →
    nameOf? fields key' = some name → key = key'

namespace Setting

/-- The parts that a record gives, under the names of their fields. -/
def parts (fields : List Field) : Setting → Parts
  | .table entries =>
    entries.filterMap fun entry => (nameOf? fields entry.1).map fun name => (name, entry.2)
  | .list items => (fields.zip items).map fun piece => (piece.1.name, piece.2)
  | _ => []

/-- What a record gives for a field: in a table under any of its spellings, in a list at its
position. -/
def given? (fields : List Field) (name : String) (setting : Setting) : Option Setting :=
  valueUnder? name (setting.parts fields)

/-- A record that spells no field in two ways, and whose parts pass. -/
def Proper (fields : List Field) (Passes : Field → Setting → Prop) : Setting → Prop
  | .table entries => Alike fields entries entries ∧
    ∀ entry ∈ entries, ∀ field, fields.find? (fun field => field.answersTo entry.1) = some field →
      Passes field entry.2
  | .list items => ∀ piece ∈ fields.zip items, Passes piece.1 piece.2
  | _ => False

theorem Orderly.of_given
    {setting part : Setting}
    {name : String}
    (orderly : setting.Orderly)
    (isGiven : setting.given? fields name = some part) :
    part.Orderly := by
  have member := mem_of_valueUnder? isGiven
  cases setting with
  | table entries =>
    obtain ⟨entry, isEntry, isPart⟩ := List.mem_filterMap.mp member
    obtain ⟨_, -, ⟨⟩⟩ := Option.map_eq_some_iff.mp isPart
    exact orderly.of_mem isEntry
  | list items =>
    obtain ⟨piece, isPiece, ⟨⟩⟩ := List.mem_map.mp member
    exact orderly.of_mem_list (List.of_mem_zip isPiece).2
  | _ => cases member

/-- What a proper record gives for a field passes. -/
theorem Proper.exists_of_given
    {Passes : Field → Setting → Prop}
    {setting part : Setting}
    {name : String}
    (proper : setting.Proper fields Passes)
    (isGiven : setting.given? fields name = some part) :
    ∃ field ∈ fields, field.name = name ∧ Passes field part := by
  have member := mem_of_valueUnder? isGiven
  cases setting with
  | table entries =>
    obtain ⟨entry, isEntry, isPart⟩ := List.mem_filterMap.mp member
    obtain ⟨_, isName, ⟨⟩⟩ := Option.map_eq_some_iff.mp isPart
    obtain ⟨field, isField, rfl⟩ := Option.map_eq_some_iff.mp isName
    exact ⟨field, List.mem_of_find?_eq_some isField, rfl, proper.2 entry isEntry field isField⟩
  | list items =>
    obtain ⟨piece, isPiece, ⟨⟩⟩ := List.mem_map.mp member
    exact ⟨piece.1, (List.of_mem_zip isPiece).1, rfl, proper piece isPiece⟩
  | _ => exact proper.elim

end Setting

/-! ### Reading a record -/

theorem Alike.symm {held above : List (String × Setting)} (alike : Alike fields held above) :
    Alike fields above held :=
  fun key isKey key' isKey' name isName isName' =>
    (alike key' isKey' key isKey name isName' isName).symm

theorem alike_cons_iff
    {key : String}
    {part : Setting}
    {rest : List (String × Setting)}
    (unrepeated : Unrepeated ((key, part) :: rest)) :
    Alike fields ((key, part) :: rest) ((key, part) :: rest) ↔
      Alike fields rest rest ∧ ∀ name, nameOf? fields key = some name →
        ∀ key' ∈ rest.map Prod.fst, nameOf? fields key' ≠ some name := by
  have notLater : key ∉ rest.map Prod.fst := (List.nodup_cons.mp unrepeated).1
  simp only [Alike, List.map_cons, List.forall_mem_cons]
  constructor
  · rintro ⟨⟨-, first⟩, later⟩
    refine ⟨fun key isKey => (later key isKey).2, fun name isName key' isKey' isName' => ?_⟩
    exact notLater (first key' isKey' name isName isName' ▸ isKey')
  · rintro ⟨alike, others⟩
    have apart (key' : String) (isKey' : key' ∈ rest.map Prod.fst) (name : String)
        (isName : nameOf? fields key = some name) (isName' : nameOf? fields key' = some name) :
        key = key' :=
      absurd isName' (others name isName key' isKey')
    refine ⟨⟨fun _ _ _ => trivial, apart⟩, fun key' isKey' => ⟨?_, alike key' isKey'⟩⟩
    exact fun name isName' isName => (apart key' isKey' name isName isName').symm

theorem proper_cons_iff
    {Passes : Field → Setting → Prop}
    {key : String}
    {part : Setting}
    {rest : List (String × Setting)}
    (unrepeated : Unrepeated ((key, part) :: rest)) :
    (Setting.table ((key, part) :: rest)).Proper fields Passes ↔
      (Setting.table rest).Proper fields Passes ∧
        (∀ name, nameOf? fields key = some name →
          ∀ key' ∈ rest.map Prod.fst, nameOf? fields key' ≠ some name) ∧
        ∀ field, fields.find? (fun field => field.answersTo key) = some field →
          Passes field part := by
  rw [Setting.Proper, Setting.Proper, alike_cons_iff unrepeated, List.forall_mem_cons]
  exact ⟨fun ⟨⟨alike, others⟩, passes, later⟩ => ⟨⟨alike, later⟩, others, passes⟩,
    fun ⟨⟨alike, later⟩, others, passes⟩ => ⟨⟨alike, others⟩, passes, later⟩⟩

theorem partsOfEntries_eq_ok_iff
    (fields : List Field)
    {entries : List (String × Setting)}
    (unrepeated : Unrepeated entries)
    (seen : List String)
    (parts : Parts) :
    partsOfEntries fields seen entries = .ok parts ↔
      (∀ key ∈ entries.map Prod.fst, ∀ name, nameOf? fields key = some name → name ∉ seen) ∧
        (Setting.table entries).Proper fields (fun field part => field.check part = .ok ()) ∧
          parts = (Setting.table entries).parts fields := by
  induction entries generalizing seen parts with
  | nil =>
    constructor
    · intro isParts
      exact ⟨nofun, ⟨nofun, nofun⟩, (Except.ok.inj isParts).symm⟩
    · rintro ⟨-, -, rfl⟩
      rfl
  | cons entry rest inductionHypothesis =>
    obtain ⟨key, part⟩ := entry
    have later (seen : List String) (parts : Parts) :=
      inductionHypothesis (List.nodup_cons.mp unrepeated).2 seen parts
    rw [partsOfEntries, proper_cons_iff unrepeated, List.map_cons, List.forall_mem_cons,
      Setting.parts, List.filterMap_cons, nameOf?]
    cases found : fields.find? (fun field => field.answersTo key) with
    | none =>
      simp only [later, Option.map_none, reduceCtorEq, false_implies, implies_true, true_and,
        and_true]
      rfl
    | some field =>
      simp only [Option.map_some, Option.some.injEq, forall_eq', List.contains_eq_mem,
        decide_eq_true_eq]
      by_cases repeated : field.name ∈ seen
      · rw [if_pos repeated]
        exact ⟨nofun, fun ⟨fresh, _⟩ => absurd repeated fresh.1⟩
      · rw [if_neg repeated]
        constructor
        · intro isParts
          obtain ⟨_, passes, isParts⟩ := Outcome.exists_of_bind_eq_ok isParts
          obtain ⟨others, areOthers, ⟨⟩⟩ := Outcome.exists_of_bind_eq_ok isParts
          obtain ⟨fresh, proper, rfl⟩ := (later _ _).mp areOthers
          refine ⟨⟨repeated, fun key' isKey' name isName seen => ?_⟩, ⟨proper, ?_, ?_⟩, rfl⟩
          · exact fresh key' isKey' name isName (List.mem_cons_of_mem _ seen)
          · intro key' isKey' isName
            exact fresh key' isKey' _ isName List.mem_cons_self
          · exact Reading.under_eq_ok_iff.mp passes
        · rintro ⟨⟨-, fresh⟩, ⟨proper, apart, passes⟩, rfl⟩
          have areOthers := (later (field.name :: seen) _).mpr
            ⟨fun key' isKey' name isName seen => ?_, proper, rfl⟩
          · rw [Reading.under_eq_ok_iff.mpr passes]
            show (partsOfEntries fields (field.name :: seen) rest >>= _) = _
            rw [areOthers]
            rfl
          · rcases List.mem_cons.mp seen with rfl | seen
            · exact apart key' isKey' isName
            · exact fresh key' isKey' name isName seen

/-- Where a list or its fields have come to their end, nothing more is given. -/
theorem nothing_eq_ok_iff
    {items : List Setting}
    {reading : Reading Parts}
    {parts : Parts}
    (isNothing : reading = .ok [])
    (noPieces : fields.zip items = []) :
    reading = .ok parts ↔
      (Setting.list items).Proper fields (fun field part => field.check part = .ok ()) ∧
        parts = (Setting.list items).parts fields := by
  rw [isNothing, Setting.Proper, Setting.parts, noPieces]
  exact ⟨fun isParts => ⟨nofun, (Except.ok.inj isParts).symm⟩,
    fun ⟨_, isParts⟩ => congrArg Except.ok isParts.symm⟩

theorem partsOfItems_eq_ok_iff
    (fields : List Field)
    (items : List Setting)
    (position : Nat)
    (parts : Parts) :
    partsOfItems position fields items = .ok parts ↔
      (Setting.list items).Proper fields (fun field part => field.check part = .ok ()) ∧
        parts = (Setting.list items).parts fields := by
  induction fields generalizing items position parts with
  | nil => exact nothing_eq_ok_iff (by rw [partsOfItems]; exact nofun) rfl
  | cons field rest inductionHypothesis =>
    cases items with
    | nil => exact nothing_eq_ok_iff rfl rfl
    | cons item items =>
      rw [partsOfItems, Setting.Proper, Setting.parts, List.zip_cons_cons, List.forall_mem_cons,
        List.map_cons]
      constructor
      · intro isParts
        obtain ⟨_, passes, isParts⟩ := Outcome.exists_of_bind_eq_ok isParts
        obtain ⟨others, areOthers, ⟨⟩⟩ := Outcome.exists_of_bind_eq_ok isParts
        obtain ⟨proper, rfl⟩ := (inductionHypothesis _ _ _).mp areOthers
        exact ⟨⟨Reading.under_eq_ok_iff.mp passes, proper⟩, rfl⟩
      · rintro ⟨⟨passes, proper⟩, rfl⟩
        rw [Reading.under_eq_ok_iff.mpr passes]
        show (partsOfItems (position + 1) rest items >>= _) = _
        rw [(inductionHypothesis _ _ _).mpr ⟨proper, rfl⟩]
        rfl

theorem requireFields_eq_ok_iff (defect : Field → Defect) (held parts : Parts) :
    requireFields fields defect held = .ok parts ↔
      (∀ field ∈ fields, field.required → (valueUnder? field.name held).isSome) ∧
        parts = held := by
  rw [requireFields]
  cases missing : fields.find? _ with
  | some field =>
    refine ⟨nofun, fun ⟨complete, _⟩ => ?_⟩
    have isMissing := List.find?_some missing
    simp only [Bool.and_eq_true, Option.isNone_iff_eq_none] at isMissing
    have isSome := complete field (List.mem_of_find?_eq_some missing) isMissing.1
    rw [isMissing.2] at isSome
    cases isSome
  | none =>
    rw [List.find?_eq_none] at missing
    refine ⟨fun isParts => ⟨fun field member required => ?_, (Except.ok.inj isParts).symm⟩,
      fun ⟨_, same⟩ => by rw [same]⟩
    have notMissing := missing field member
    rw [required, Bool.true_and, Bool.not_eq_true, Option.isNone_eq_false_iff] at notMissing
    exact notMissing

/-- Reading a record succeeds exactly if it is proper and gives every field that must be given. -/
theorem readRecord_eq_ok_iff
    {setting : Setting}
    (orderly : setting.Orderly)
    (parts : Parts) :
    setting.readRecord fields = .ok parts ↔
      setting.Proper fields (fun field part => field.check part = .ok ()) ∧
        (∀ field ∈ fields, field.required → (setting.given? fields field.name).isSome) ∧
          parts = setting.parts fields := by
  cases setting with
  | table entries =>
    have areParts := partsOfEntries_eq_ok_iff fields orderly.unrepeated []
    constructor
    · intro isRead
      obtain ⟨held, isHeld, isRead⟩ := Outcome.exists_of_bind_eq_ok isRead
      obtain ⟨-, proper, rfl⟩ := (areParts held).mp isHeld
      exact ⟨proper, (requireFields_eq_ok_iff _ _ _).mp isRead⟩
    · rintro ⟨proper, complete⟩
      show (partsOfEntries fields [] entries >>= _) = _
      rw [(areParts _).mpr ⟨fun _ _ _ _ => List.not_mem_nil, proper, rfl⟩]
      exact (requireFields_eq_ok_iff _ _ _).mpr complete
  | list items =>
    have areParts := partsOfItems_eq_ok_iff fields items 0
    constructor
    · intro isRead
      obtain ⟨held, isHeld, isRead⟩ := Outcome.exists_of_bind_eq_ok isRead
      obtain ⟨proper, rfl⟩ := (areParts held).mp isHeld
      exact ⟨proper, (requireFields_eq_ok_iff _ _ _).mp isRead⟩
    · rintro ⟨proper, complete⟩
      show (partsOfItems 0 fields items >>= _) = _
      rw [(areParts _).mpr ⟨proper, rfl⟩]
      exact (requireFields_eq_ok_iff _ _ _).mpr complete
  | _ => exact ⟨nofun, fun ⟨proper, _⟩ => proper.elim⟩

end RepoVitals.Config

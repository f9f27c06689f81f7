import RepoVitals.Proofs.Config.Record
/-!
Records that are laid over each other.

Owns:
- the keys and parts of two tables together;
- `passJoined_proper`: when one record over another is proper, given what there is to say about
  their parts;
- `given?_overlayFields`: what two tables give for a field together.

Keys are combined as they are written, so a field that two tables spell differently is given twice
by both together.
-/

namespace RepoVitals.Config

variable {fields : List Field}

/-! ### Tables over each other -/

/-- What two settings make of a part that each of them may give. -/
def Setting.overlay? : Option Setting → Option Setting → Option Setting
  | some below, some above => some (overlay below above)
  | some below, none => some below
  | none, above => above

theorem Setting.overlay?_none (below : Option Setting) : overlay? below none = below := by
  cases below <;> rfl

theorem valueUnder?_overlayFields
    {above : List (String × Setting)}
    (unrepeated : Unrepeated above)
    (held : List (String × Setting))
    (key : String) :
    valueUnder? key (Setting.overlayFields held above) =
      Setting.overlay? (valueUnder? key held) (valueUnder? key above) := by
  induction above generalizing held with
  | nil =>
    rw [Setting.overlayFields]
    exact (Setting.overlay?_none _).symm
  | cons entry rest inductionHypothesis =>
    obtain ⟨first, part⟩ := entry
    obtain ⟨notLater, later⟩ := List.nodup_cons.mp unrepeated
    rw [Setting.overlayFields, inductionHypothesis later, valueUnder?_cons]
    by_cases same : first = key
    · subst same
      rw [Ledger.valueUnder?_insertEntry_self, valueUnder?_eq_none_iff.mpr notLater, if_pos rfl]
      cases valueUnder? first held <;> rfl
    · rw [Ledger.valueUnder?_insertEntry_of_ne _ (Ne.symm same), if_neg same]

/-- A key of both tables together is a key of one of them. -/
theorem mem_keys_overlayFields
    {above : List (String × Setting)}
    (unrepeated : Unrepeated above)
    (held : List (String × Setting))
    (key : String) :
    key ∈ (Setting.overlayFields held above).map Prod.fst ↔
      key ∈ held.map Prod.fst ∨ key ∈ above.map Prod.fst := by
  have isKey (entries : List (String × Setting)) :
      key ∈ entries.map Prod.fst ↔ valueUnder? key entries ≠ none := by
    rw [ne_eq, valueUnder?_eq_none_iff, not_not]
  rw [isKey, isKey, isKey, valueUnder?_overlayFields unrepeated]
  cases valueUnder? key held <;> cases valueUnder? key above <;>
    simp only [Setting.overlay?, ne_eq, reduceCtorEq, not_true, not_false_eq_true, or_self, or_true,
      true_or]

theorem alike_overlayFields_iff
    {above : List (String × Setting)}
    (unrepeated : Unrepeated above)
    (held : List (String × Setting)) :
    Alike fields (Setting.overlayFields held above) (Setting.overlayFields held above) ↔
      Alike fields held held ∧ Alike fields above above ∧ Alike fields held above := by
  have isKey := mem_keys_overlayFields unrepeated held
  constructor
  · intro alike
    refine ⟨fun key isHeld key' isHeld' => ?_, fun key isAbove key' isAbove' => ?_,
      fun key isHeld key' isAbove => ?_⟩
    · exact alike key ((isKey key).mpr (.inl isHeld)) key' ((isKey key').mpr (.inl isHeld'))
    · exact alike key ((isKey key).mpr (.inr isAbove)) key' ((isKey key').mpr (.inr isAbove'))
    · exact alike key ((isKey key).mpr (.inl isHeld)) key' ((isKey key').mpr (.inr isAbove))
  · rintro ⟨alikeHeld, alikeAbove, alike⟩ key member key' member'
    rcases (isKey key).mp member with isHeld | isAbove
    · rcases (isKey key').mp member' with isHeld' | isAbove'
      · exact alikeHeld key isHeld key' isHeld'
      · exact alike key isHeld key' isAbove'
    · rcases (isKey key').mp member' with isHeld' | isAbove'
      · exact alike.symm key isAbove key' isHeld'
      · exact alikeAbove key isAbove key' isAbove'

/-! ### Records over each other -/

/-- Where two tables give the same field, they spell it in the same way and its parts are joined.
Settings that are not both tables do not meet. -/
def Setting.Concordant (fields : List Field) (Joined : Field → Setting → Setting → Prop) :
    Setting → Setting → Prop
  | .table held, .table above => Alike fields held above ∧
    ∀ key part part', valueUnder? key held = some part → valueUnder? key above = some part' →
      ∀ field,
        fields.find? (fun field => field.answersTo key) = some field → Joined field part part'
  | _, _ => True

/-- Of settings that pass, one over the other passes exactly if both are joined.  Where one over the
other passes, the upper one does. -/
structure PassJoined (Passes : Setting → Prop) (Joined : Setting → Setting → Prop) : Prop where
  split : ∀ below above, below.Orderly → above.Orderly → Passes (below.overlay above) →
    Passes above ∧ Joined below above
  join : ∀ below above, below.Orderly → above.Orderly → Passes below → Passes above →
    Joined below above → Passes (below.overlay above)

variable {Passes : Field → Setting → Prop} {Joined : Field → Setting → Setting → Prop}

theorem Setting.Proper.passes
    {entries : List (String × Setting)}
    {key : String}
    {part : Setting}
    {field : Field}
    (proper : (Setting.table entries).Proper fields Passes)
    (found : valueUnder? key entries = some part)
    (isField : fields.find? (fun field => field.answersTo key) = some field) :
    Passes field part :=
  proper.2 _ (mem_of_valueUnder? found) field isField

theorem proper_table_iff
    {entries : List (String × Setting)}
    (unrepeated : Unrepeated entries) :
    (Setting.table entries).Proper fields Passes ↔ Alike fields entries entries ∧
      ∀ key part field, valueUnder? key entries = some part →
        fields.find? (fun field => field.answersTo key) = some field → Passes field part := by
  refine ⟨fun proper => ⟨proper.1, fun key part field => proper.passes⟩, ?_⟩
  rintro ⟨alike, passes⟩
  refine ⟨alike, fun entry member field => passes entry.1 entry.2 field ?_⟩
  exact (valueUnder?_eq_some_iff unrepeated).mpr member

theorem Setting.concordant_of_not_tables
    {below above : Setting}
    (notTables : ¬(below.isTable ∧ above.isTable)) :
    below.Concordant fields Joined above := by
  cases below with
  | table held =>
    cases above with
    | table above => exact absurd ⟨rfl, rfl⟩ notTables
    | _ => exact trivial
  | _ => exact trivial

section

variable {held above : List (String × Setting)}

theorem proper_of_overlayFields
    (each : ∀ field ∈ fields, PassJoined (Passes field) (Joined field))
    (isHeld : (Setting.table held).Orderly)
    (isAbove : (Setting.table above).Orderly)
    (proper : (Setting.table (Setting.overlayFields held above)).Proper fields Passes) :
    (Setting.table above).Proper fields Passes ∧
      (Setting.table held).Concordant fields Joined (.table above) := by
  obtain ⟨-, alikeAbove, alike⟩ := (alike_overlayFields_iff isAbove.unrepeated held).mp proper.1
  have together := valueUnder?_overlayFields isAbove.unrepeated held
  have shared {key : String} {part part' : Setting} {field : Field}
      (found : valueUnder? key held = some part)
      (found' : valueUnder? key above = some part')
      (isField : fields.find? (fun field => field.answersTo key) = some field) :
      Passes field part' ∧ Joined field part part' :=
    (each field (List.mem_of_find?_eq_some isField)).split part part'
      (isHeld.of_mem (mem_of_valueUnder? found)) (isAbove.of_mem (mem_of_valueUnder? found'))
      (proper.passes (by rw [together, found, found']; rfl) isField)
  refine ⟨(proper_table_iff isAbove.unrepeated).mpr ⟨alikeAbove, ?_⟩, alike, ?_⟩
  · intro key part' field found' isField
    cases found : valueUnder? key held with
    | none => exact proper.passes (by rw [together, found, found']; rfl) isField
    | some part => exact (shared found found' isField).1
  · intro key part part' found found' field isField
    exact (shared found found' isField).2

theorem proper_overlayFields
    (each : ∀ field ∈ fields, PassJoined (Passes field) (Joined field))
    (isHeld : (Setting.table held).Orderly)
    (isAbove : (Setting.table above).Orderly)
    (proper : (Setting.table held).Proper fields Passes)
    (proper' : (Setting.table above).Proper fields Passes)
    (concordant : (Setting.table held).Concordant fields Joined (.table above)) :
    (Setting.table (Setting.overlayFields held above)).Proper fields Passes := by
  have isTogether := Setting.orderly_overlayFields isHeld fun field member => isAbove.of_mem member
  refine (proper_table_iff isTogether.unrepeated).mpr ⟨?_, fun key whole field found isField => ?_⟩
  · exact (alike_overlayFields_iff isAbove.unrepeated held).mpr ⟨proper.1, proper'.1, concordant.1⟩
  · rw [valueUnder?_overlayFields isAbove.unrepeated] at found
    cases isPart : valueUnder? key held with
    | none =>
      rw [isPart] at found
      exact proper'.passes found isField
    | some part =>
      cases isPart' : valueUnder? key above with
      | none =>
        rw [isPart, isPart'] at found
        exact Option.some.inj found ▸ proper.passes isPart isField
      | some part' =>
        rw [isPart, isPart'] at found
        have joined := concordant.2 key part part' isPart isPart' field isField
        exact Option.some.inj found ▸
          (each field (List.mem_of_find?_eq_some isField)).join part part'
          (isHeld.of_mem (mem_of_valueUnder? isPart)) (isAbove.of_mem (mem_of_valueUnder? isPart'))
          (proper.passes isPart isField) (proper'.passes isPart' isField) joined

end

/-- Records that are laid over each other, given what there is to say about their parts. -/
theorem passJoined_proper (each : ∀ field ∈ fields, PassJoined (Passes field) (Joined field)) :
    PassJoined (Setting.Proper fields Passes) (Setting.Concordant fields Joined) := by
  constructor
  · intro below above isBelow isAbove proper
    by_cases tables : below.isTable ∧ above.isTable
    · obtain ⟨held, rfl⟩ := Setting.exists_of_isTable tables.1
      obtain ⟨above, rfl⟩ := Setting.exists_of_isTable tables.2
      rw [Setting.overlay_table] at proper
      exact proper_of_overlayFields each isBelow isAbove proper
    · rw [Setting.overlay_of_not_tables tables] at proper
      exact ⟨proper, Setting.concordant_of_not_tables tables⟩
  · intro below above isBelow isAbove proper proper' concordant
    by_cases tables : below.isTable ∧ above.isTable
    · obtain ⟨held, rfl⟩ := Setting.exists_of_isTable tables.1
      obtain ⟨above, rfl⟩ := Setting.exists_of_isTable tables.2
      rw [Setting.overlay_table]
      exact proper_overlayFields each isBelow isAbove proper proper' concordant
    · rwa [Setting.overlay_of_not_tables tables]

/-! ### What records give together -/

theorem given?_of_alone
    {entries : List (String × Setting)}
    {key name : String}
    (isName : nameOf? fields key = some name)
    (alone : ∀ key' ∈ entries.map Prod.fst, nameOf? fields key' = some name → key' = key) :
    (Setting.table entries).given? fields name = valueUnder? key entries := by
  rw [Setting.given?, Setting.parts]
  induction entries with
  | nil => rfl
  | cons entry rest inductionHypothesis =>
    obtain ⟨first, part⟩ := entry
    obtain ⟨isFirst, alone⟩ := List.forall_mem_cons.mp alone
    rw [List.filterMap_cons, valueUnder?_cons]
    by_cases same : first = key
    · rw [if_pos same, same, isName]
      exact if_pos rfl
    · rw [if_neg same, ← inductionHypothesis alone]
      cases isOther : nameOf? fields first with
      | none => rfl
      | some other =>
        have different : other ≠ name := fun isSame => same (isFirst (isSame ▸ isOther))
        exact if_neg different

/-- In a table that spells no field in two ways, a part is what its key stands for. -/
theorem given?_of_valueUnder?
    {entries : List (String × Setting)}
    {key name : String}
    {part : Setting}
    (alike : Alike fields entries entries)
    (isName : nameOf? fields key = some name)
    (found : valueUnder? key entries = some part) :
    (Setting.table entries).given? fields name = some part := by
  have isKey : key ∈ entries.map Prod.fst := List.mem_map_of_mem (mem_of_valueUnder? found)
  rw [given?_of_alone isName fun key' isKey' isName' => alike key' isKey' key isKey name isName'
    isName, found]

theorem given?_of_none
    {entries : List (String × Setting)}
    {name : String}
    (none : ∀ key ∈ entries.map Prod.fst, nameOf? fields key ≠ some name) :
    (Setting.table entries).given? fields name = .none := by
  rw [Setting.given?, Setting.parts, valueUnder?_eq_none_iff]
  intro member
  obtain ⟨part, isPart, rfl⟩ := List.mem_map.mp member
  obtain ⟨entry, isEntry, isPart⟩ := List.mem_filterMap.mp isPart
  obtain ⟨name, isName, rfl⟩ := Option.map_eq_some_iff.mp isPart
  exact none _ (List.mem_map_of_mem isEntry) isName

/-- What two tables give for a field together, if they spell it in the same way. -/
theorem given?_overlayFields
    {held above : List (String × Setting)}
    (unrepeated : Unrepeated above)
    (alike : Alike fields (Setting.overlayFields held above) (Setting.overlayFields held above))
    (name : String) :
    (Setting.table (Setting.overlayFields held above)).given? fields name =
      Setting.overlay? ((Setting.table held).given? fields name)
        ((Setting.table above).given? fields name) := by
  have isKey := mem_keys_overlayFields unrepeated held
  by_cases named : ∃ key ∈ (Setting.overlayFields held above).map Prod.fst,
      nameOf? fields key = some name
  · obtain ⟨key, member, isName⟩ := named
    have alone (key' : String) (member' : key' ∈ (Setting.overlayFields held above).map Prod.fst)
        (isName' : nameOf? fields key' = some name) : key' = key :=
      alike key' member' key member name isName' isName
    rw [given?_of_alone isName alone,
      given?_of_alone isName fun key' isHeld => alone key' ((isKey key').mpr (.inl isHeld)),
      given?_of_alone isName fun key' isAbove => alone key' ((isKey key').mpr (.inr isAbove)),
      valueUnder?_overlayFields unrepeated]
  · simp only [not_exists, not_and] at named
    rw [given?_of_none named,
      given?_of_none fun key isHeld => named key ((isKey key).mpr (.inl isHeld)),
      given?_of_none fun key isAbove => named key ((isKey key).mpr (.inr isAbove))]
    rfl

end RepoVitals.Config

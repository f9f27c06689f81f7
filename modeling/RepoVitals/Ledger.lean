/-!
Ledgers: finite maps from strings to values whose entries stand in ascending key order.

Owns:
- insertion into an ascending entry list, where the later value of a key wins;
- the type that carries the order as an invariant, so that two ledgers with the same entries are
  the same ledger;
- lookup by key, and the two equations that say what a lookup finds after an insertion.

Strings are compared by code point, which is also the order of their UTF-8 bytes.
-/

namespace RepoVitals

/-- Put `value` under `key`, before the first larger key and in place of an equal one. -/
def insertEntry {α : Type} (key : String) (value : α) :
    List (String × α) → List (String × α)
  | [] => [(key, value)]
  | (first, held) :: rest =>
    if key < first then (key, value) :: (first, held) :: rest
    else if first < key then (first, held) :: insertEntry key value rest
    else (key, value) :: rest

/-- The value of the first entry under `key`. -/
def valueUnder? {α : Type} (key : String) : List (String × α) → Option α
  | [] => none
  | (first, held) :: rest => if first = key then some held else valueUnder? key rest

/-- Keys grow strictly from entry to entry. -/
abbrev Ascending {α : Type} (entries : List (String × α)) : Prop :=
  entries.Pairwise (fun first second => first.1 < second.1)

theorem eq_of_not_lt_of_not_lt
    {first second : String}
    (notBelow : ¬first < second)
    (notAbove : ¬second < first) :
    first = second :=
  String.le_antisymm (String.not_lt.mp notAbove) (String.not_lt.mp notBelow)

/-- An entry of the list after an insertion is the new one or an old one. -/
theorem mem_insertEntry
    {α : Type}
    {key : String}
    {value : α}
    {entries : List (String × α)}
    {entry : String × α}
    (member : entry ∈ insertEntry key value entries) :
    entry = (key, value) ∨ entry ∈ entries := by
  induction entries with
  | nil => simpa [insertEntry] using member
  | cons head rest inductionHypothesis =>
    obtain ⟨first, held⟩ := head
    unfold insertEntry at member
    split at member
    · simpa using member
    · split at member
      · rcases List.mem_cons.mp member with same | later
        · exact Or.inr (by simp [same])
        · rcases inductionHypothesis later with new | old
          · exact Or.inl new
          · exact Or.inr (List.mem_cons_of_mem _ old)
      · rcases List.mem_cons.mp member with same | later
        · exact Or.inl same
        · exact Or.inr (List.mem_cons_of_mem _ later)

theorem ascending_insertEntry
    {α : Type}
    (key : String)
    (value : α)
    {entries : List (String × α)}
    (ascending : Ascending entries) :
    Ascending (insertEntry key value entries) := by
  induction entries with
  | nil => simp [insertEntry]
  | cons head rest inductionHypothesis =>
    obtain ⟨first, held⟩ := head
    obtain ⟨firstBelow, restAscending⟩ := List.pairwise_cons.mp ascending
    unfold insertEntry
    split
    · rename_i below
      refine List.pairwise_cons.mpr ⟨fun entry member => ?_, ascending⟩
      rcases List.mem_cons.mp member with same | later
      · simpa [same] using below
      · exact String.lt_trans below (firstBelow entry later)
    · rename_i notBelow
      split
      · rename_i above
        refine List.pairwise_cons.mpr ⟨fun entry member => ?_, inductionHypothesis restAscending⟩
        rcases mem_insertEntry member with new | old
        · simpa [new] using above
        · exact firstBelow entry old
      · rename_i notAbove
        have same : key = first := eq_of_not_lt_of_not_lt notBelow notAbove
        subst same
        exact List.pairwise_cons.mpr ⟨firstBelow, restAscending⟩

/-- A finite map from strings, as the list of its entries in ascending key order. -/
structure Ledger (α : Type) where
  entries : List (String × α)
  ascending : Ascending entries
  deriving DecidableEq

namespace Ledger

variable {α : Type}

/-- Nothing written yet. -/
def empty : Ledger α := ⟨[], List.Pairwise.nil⟩

instance : Inhabited (Ledger α) := ⟨empty⟩

/-- Write `value` under `key`; an earlier value of the key is replaced. -/
def insert (ledger : Ledger α) (key : String) (value : α) : Ledger α :=
  ⟨insertEntry key value ledger.entries, ascending_insertEntry key value ledger.ascending⟩

/-- What is written under `key`. -/
def get? (ledger : Ledger α) (key : String) : Option α :=
  valueUnder? key ledger.entries

/-- The keys, ascending. -/
def keys (ledger : Ledger α) : List String :=
  ledger.entries.map Prod.fst

/-- How many keys are written. -/
def size (ledger : Ledger α) : Nat :=
  ledger.entries.length

/-- Write the pairs in the given order, so that the last pair of a key stays. -/
def ofList (pairs : List (String × α)) : Ledger α :=
  pairs.foldl (fun ledger pair => ledger.insert pair.1 pair.2) empty

/-- Two ledgers with the same entries are the same. -/
theorem ext_entries {first second : Ledger α} (same : first.entries = second.entries) :
    first = second := by
  cases first
  cases second
  cases same
  rfl

/-! ### Lookups after an insertion -/

theorem valueUnder?_insertEntry_self (key : String) (value : α)
    (entries : List (String × α)) :
    valueUnder? key (insertEntry key value entries) = some value := by
  induction entries with
  | nil => simp [insertEntry, valueUnder?]
  | cons head rest inductionHypothesis =>
    obtain ⟨first, held⟩ := head
    unfold insertEntry
    split
    · simp [valueUnder?]
    · split
      · rename_i above
        have different : first ≠ key := by
          intro same
          subst same
          exact String.lt_irrefl _ above
        simp [valueUnder?, different, inductionHypothesis]
      · simp [valueUnder?]

theorem valueUnder?_insertEntry_of_ne {key other : String} (value : α)
    (different : other ≠ key) (entries : List (String × α)) :
    valueUnder? other (insertEntry key value entries) = valueUnder? other entries := by
  induction entries with
  | nil => simp [insertEntry, valueUnder?, Ne.symm different]
  | cons head rest inductionHypothesis =>
    obtain ⟨first, held⟩ := head
    unfold insertEntry
    split
    · simp [valueUnder?, Ne.symm different]
    · rename_i notBelow
      split
      · simp only [valueUnder?, inductionHypothesis]
      · rename_i notAbove
        have same : key = first := eq_of_not_lt_of_not_lt notBelow notAbove
        subst same
        simp [valueUnder?, Ne.symm different]

/-- The key just written holds the value just written. -/
@[simp] theorem get?_insert_self (ledger : Ledger α) (key : String) (value : α) :
    (ledger.insert key value).get? key = some value :=
  valueUnder?_insertEntry_self key value ledger.entries

/-- Writing one key leaves every other key as it was. -/
theorem get?_insert_of_ne (ledger : Ledger α) {key other : String} (value : α)
    (different : other ≠ key) :
    (ledger.insert key value).get? other = ledger.get? other :=
  valueUnder?_insertEntry_of_ne value different ledger.entries

@[simp] theorem get?_empty (key : String) : (empty : Ledger α).get? key = none := rfl

end Ledger

end RepoVitals

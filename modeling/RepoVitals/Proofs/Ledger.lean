import RepoVitals.Ledger
import Mathlib.Data.List.Basic
import Mathlib.Data.List.Forall2
import Mathlib.Data.List.Nodup
import Mathlib.Data.List.Induction
/-!
Ledgers through their lookups.

Owns:
- lookups and entries told by each other, and equality of ledgers with the same lookups;
- what a sequence of entries leaves behind when every key occurs once, in whatever order they stand;
- what a sequence of pairs leaves behind when keys may repeat, and what two sequences leave behind
  one after the other;
- ledgers that are made side by side.
-/

namespace RepoVitals

variable {α β : Type}

/-! ### Entry lists -/

/-- No key stands in two entries. -/
abbrev Unrepeated (entries : List (String × α)) : Prop :=
  (entries.map Prod.fst).Nodup

theorem valueUnder?_cons (key first : String) (held : α) (rest : List (String × α)) :
    valueUnder? key ((first, held) :: rest) =
      if first = key then some held else valueUnder? key rest :=
  rfl

theorem mem_of_valueUnder?
    {key : String}
    {value : α}
    {entries : List (String × α)}
    (found : valueUnder? key entries = some value) :
    (key, value) ∈ entries := by
  induction entries with
  | nil => exact absurd found (Option.some_ne_none value).symm
  | cons head rest inductionHypothesis =>
    obtain ⟨first, held⟩ := head
    rw [valueUnder?_cons] at found
    by_cases same : first = key
    · rw [if_pos same] at found
      rw [← same, Option.some.inj found]
      exact List.mem_cons_self
    · rw [if_neg same] at found
      exact List.mem_cons_of_mem _ (inductionHypothesis found)

theorem valueUnder?_eq_some_iff
    {key : String}
    {value : α}
    {entries : List (String × α)}
    (unrepeated : Unrepeated entries) :
    valueUnder? key entries = some value ↔ (key, value) ∈ entries := by
  refine ⟨mem_of_valueUnder?, fun member => ?_⟩
  induction entries with
  | nil => exact absurd member List.not_mem_nil
  | cons head rest inductionHypothesis =>
    obtain ⟨first, held⟩ := head
    obtain ⟨notLater, unrepeatedRest⟩ := List.nodup_cons.mp unrepeated
    rw [valueUnder?_cons]
    rcases List.mem_cons.mp member with same | later
    · cases same
      rw [if_pos rfl]
    · have different : first ≠ key := by
        intro same
        apply notLater
        rw [same]
        exact List.mem_map.mpr ⟨(key, value), later, rfl⟩
      rw [if_neg different]
      exact inductionHypothesis unrepeatedRest later

theorem valueUnder?_eq_none_iff {key : String} {entries : List (String × α)} :
    valueUnder? key entries = none ↔ key ∉ entries.map Prod.fst := by
  induction entries with
  | nil => exact ⟨fun _ => List.not_mem_nil, fun _ => rfl⟩
  | cons head rest inductionHypothesis =>
    obtain ⟨first, held⟩ := head
    rw [valueUnder?_cons]
    by_cases same : first = key
    · simp [same]
    · rw [if_neg same, inductionHypothesis]
      simp [Ne.symm same]

/-- Where no key repeats, an entry is the only one under its key. -/
theorem filter_of_unrepeated
    {entries : List (String × α)}
    {entry : String × α}
    (unrepeated : Unrepeated entries)
    (member : entry ∈ entries) :
    entries.filter (fun other => other.1 = entry.1) = [entry] := by
  induction entries with
  | nil => exact absurd member List.not_mem_nil
  | cons head rest inductionHypothesis =>
    obtain ⟨notLater, unrepeatedRest⟩ := List.nodup_cons.mp unrepeated
    by_cases same : head.1 = entry.1
    · have isHead : entry = head := by
        rcases List.mem_cons.mp member with isHead | later
        · exact isHead
        · exact absurd (same ▸ List.mem_map_of_mem later) notLater
      have others : rest.filter (fun other => other.1 = entry.1) = [] := by
        rw [List.filter_eq_nil_iff]
        intro other isOther sameOther
        apply notLater
        rw [same, ← of_decide_eq_true sameOther]
        exact List.mem_map_of_mem isOther
      rw [List.filter_cons, if_pos (decide_eq_true same), others, isHead]
    · have later : entry ∈ rest := by
        rcases List.mem_cons.mp member with isHead | later
        · exact absurd (congrArg Prod.fst isHead.symm) same
        · exact later
      rw [List.filter_cons, if_neg (by simpa using same), inductionHypothesis unrepeatedRest later]

/-- Where no key repeats, the order of the entries does not matter for what is found. -/
theorem valueUnder?_of_perm
    {entries entries' : List (String × α)}
    (unrepeated : Unrepeated entries)
    (same : entries'.Perm entries)
    (key : String) :
    valueUnder? key entries' = valueUnder? key entries := by
  have unrepeated' : Unrepeated entries' := (same.map Prod.fst).nodup_iff.mpr unrepeated
  apply Option.ext
  intro value
  rw [valueUnder?_eq_some_iff unrepeated, valueUnder?_eq_some_iff unrepeated', same.mem_iff]

namespace Ledger

/-! ### Lookups -/

theorem unrepeated (ledger : Ledger α) : Unrepeated ledger.entries := by
  rw [Unrepeated, List.nodup_iff_pairwise_ne, List.pairwise_map]
  exact ledger.ascending.imp fun below => String.ne_of_lt below

theorem pairwise_keys (ledger : Ledger α) : ledger.keys.Pairwise (· < ·) :=
  List.pairwise_map.mpr ledger.ascending

theorem get?_eq_some_iff {ledger : Ledger α} {key : String} {value : α} :
    ledger.get? key = some value ↔ (key, value) ∈ ledger.entries :=
  valueUnder?_eq_some_iff ledger.unrepeated

theorem mem_keys_iff {ledger : Ledger α} {key : String} :
    key ∈ ledger.keys ↔ (ledger.get? key).isSome = true := by
  rw [Option.isSome_iff_ne_none, Ne, get?, valueUnder?_eq_none_iff, not_not]
  rfl

theorem get?_insert (ledger : Ledger α) (key other : String) (value : α) :
    (ledger.insert key value).get? other =
      if other = key then some value else ledger.get? other := by
  by_cases same : other = key
  · rw [if_pos same, same, get?_insert_self]
  · rw [if_neg same, get?_insert_of_ne ledger value same]

/-- Two ledgers that answer every lookup alike are the same. -/
theorem ext_get?
    {first second : Ledger α}
    (same : ∀ key, first.get? key = second.get? key) :
    first = second := by
  apply ext_entries
  have perm : first.entries.Perm second.entries := by
    refine (List.perm_ext_iff_of_nodup first.unrepeated.of_map second.unrepeated.of_map).mpr ?_
    rintro ⟨key, value⟩
    rw [← get?_eq_some_iff, ← get?_eq_some_iff, same key]
  refine List.Perm.eq_of_pairwise ?_ first.ascending second.ascending perm
  intro left right _ _ below above
  exact absurd (String.lt_trans below above) (String.lt_irrefl _)

/-! ### Sequences of entries -/

/-- Take entries in one after the other; what a key holds by then goes into what is written. -/
def takeIn (update : Option α → β → α) (ledger : Ledger α) (entries : List (String × β)) :
    Ledger α :=
  entries.foldl
    (fun held entry => held.insert entry.1 (update (held.get? entry.1) entry.2)) ledger

theorem get?_takeIn
    (update : Option α → β → α)
    (ledger : Ledger α)
    {entries : List (String × β)}
    (unrepeated : Unrepeated entries)
    (key : String) :
    (ledger.takeIn update entries).get? key =
      match valueUnder? key entries with
      | none => ledger.get? key
      | some value => some (update (ledger.get? key) value) := by
  induction entries generalizing ledger with
  | nil => rfl
  | cons head rest inductionHypothesis =>
    obtain ⟨first, held⟩ := head
    obtain ⟨notLater, unrepeatedRest⟩ := List.nodup_cons.mp unrepeated
    have step : ledger.takeIn update ((first, held) :: rest) =
        (ledger.insert first (update (ledger.get? first) held)).takeIn update rest := rfl
    rw [step, inductionHypothesis _ unrepeatedRest, get?_insert, valueUnder?_cons]
    by_cases same : first = key
    · subst same
      rw [if_pos rfl, if_pos rfl, valueUnder?_eq_none_iff.mpr notLater]
    · rw [if_neg same, if_neg (Ne.symm same)]

/-- Where no key repeats, entries may be taken in in any order. -/
theorem takeIn_of_perm
    (update : Option α → β → α)
    (ledger : Ledger α)
    {entries entries' : List (String × β)}
    (unrepeated : Unrepeated entries)
    (same : entries'.Perm entries) :
    ledger.takeIn update entries' = ledger.takeIn update entries := by
  have unrepeated' : Unrepeated entries' := (same.map Prod.fst).nodup_iff.mpr unrepeated
  apply ext_get?
  intro key
  rw [get?_takeIn update ledger unrepeated, get?_takeIn update ledger unrepeated',
    valueUnder?_of_perm unrepeated same]

theorem get?_ofList {pairs : List (String × α)} (unrepeated : Unrepeated pairs) (key : String) :
    (ofList pairs).get? key = valueUnder? key pairs := by
  have same : ofList pairs = empty.takeIn (fun _ value => value) pairs := rfl
  rw [same, get?_takeIn _ _ unrepeated]
  cases valueUnder? key pairs <;> rfl

/-! ### Sequences of pairs with repeated keys -/

theorem ofList_concat (pairs : List (String × α)) (pair : String × α) :
    ofList (pairs ++ [pair]) = (ofList pairs).insert pair.1 pair.2 := by
  unfold ofList
  rw [List.foldl_append]
  rfl

/-- What is written later wins. -/
theorem get?_ofList_append (first second : List (String × α)) (key : String) :
    (ofList (first ++ second)).get? key =
      ((ofList second).get? key).or ((ofList first).get? key) := by
  induction second using List.reverseRecOn with
  | nil =>
    rw [List.append_nil]
    rfl
  | append_singleton second last inductionHypothesis =>
    rw [← List.append_assoc, ofList_concat, ofList_concat, get?_insert, get?_insert,
      inductionHypothesis]
    by_cases same : key = last.1
    · rw [if_pos same, if_pos same]
      rfl
    · rw [if_neg same, if_neg same]

/-- What is found under a key was written under it. -/
theorem mem_of_get?_ofList
    {pairs : List (String × α)}
    {key : String}
    {value : α}
    (found : (ofList pairs).get? key = some value) :
    (key, value) ∈ pairs := by
  induction pairs using List.reverseRecOn with
  | nil => exact absurd found (Option.some_ne_none value).symm
  | append_singleton pairs last inductionHypothesis =>
    rw [ofList_concat, get?_insert] at found
    by_cases same : key = last.1
    · rw [if_pos same] at found
      rw [same, ← Option.some.inj found]
      exact List.mem_append_right _ List.mem_cons_self
    · rw [if_neg same] at found
      exact List.mem_append_left _ (inductionHypothesis found)

theorem mem_of_mem_entries_ofList
    {pairs : List (String × α)}
    {entry : String × α}
    (member : entry ∈ (ofList pairs).entries) :
    entry ∈ pairs :=
  mem_of_get?_ofList (get?_eq_some_iff.mpr member)

/-- Every key that was written is found. -/
theorem isSome_get?_ofList
    {pairs : List (String × α)}
    {key : String}
    {value : α}
    (member : (key, value) ∈ pairs) :
    ((ofList pairs).get? key).isSome = true := by
  induction pairs using List.reverseRecOn with
  | nil => exact absurd member List.not_mem_nil
  | append_singleton pairs last inductionHypothesis =>
    rw [ofList_concat, get?_insert]
    by_cases same : key = last.1
    · rw [if_pos same]
      rfl
    · rw [if_neg same]
      apply inductionHypothesis
      rcases List.mem_append.mp member with earlier | isLast
      · exact earlier
      · exact absurd (congrArg Prod.fst (List.mem_singleton.mp isLast)) same

/-- What is found under a key is what was written there last. -/
theorem get?_ofList_eq_some_iff
    {pairs : List (String × α)}
    {key : String}
    {value : α} :
    (ofList pairs).get? key = some value ↔
      ∃ before after, pairs = before ++ (key, value) :: after ∧ ∀ pair ∈ after, pair.1 ≠ key := by
  constructor
  · intro found
    induction pairs using List.reverseRecOn with
    | nil => cases found
    | append_singleton pairs last inductionHypothesis =>
      rw [ofList_concat, get?_insert] at found
      split at found
      · rename_i same
        cases found
        exact ⟨pairs, [], by rw [same], fun _ none => absurd none List.not_mem_nil⟩
      · rename_i different
        obtain ⟨before, after, isCut, unwritten⟩ := inductionHypothesis found
        refine ⟨before, after ++ [last], by rw [isCut, List.append_assoc, List.cons_append], ?_⟩
        intro pair member
        rcases List.mem_append.mp member with earlier | isLast
        · exact unwritten pair earlier
        · rw [List.mem_singleton.mp isLast]
          exact Ne.symm different
  · rintro ⟨before, after, rfl, unwritten⟩
    have noneLater : (ofList after).get? key = none := by
      cases found : (ofList after).get? key with
      | none => rfl
      | some later => exact absurd rfl (unwritten _ (mem_of_get?_ofList found))
    rw [List.append_cons, get?_ofList_append, noneLater, Option.none_or, ofList_concat,
      get?_insert_self]

/-- The last pair of a key is the first one from behind. -/
theorem get?_ofList_eq_valueUnder? (pairs : List (String × α)) (key : String) :
    (ofList pairs).get? key = valueUnder? key pairs.reverse := by
  induction pairs using List.reverseRecOn with
  | nil => rfl
  | append_singleton pairs last inductionHypothesis =>
    rw [ofList_concat, get?_insert, List.reverse_concat, valueUnder?_cons, inductionHypothesis]
    simp only [eq_comm]

/-- A ledger is made of its own entries. -/
theorem ofList_entries (ledger : Ledger α) : ofList ledger.entries = ledger :=
  ext_get? fun key => get?_ofList ledger.unrepeated key

@[simp] theorem mem_keys_ofList {pairs : List (String × α)} {key : String} :
    key ∈ (ofList pairs).keys ↔ ∃ value, (key, value) ∈ pairs := by
  rw [mem_keys_iff]
  constructor
  · intro isFound
    obtain ⟨value, found⟩ := Option.isSome_iff_exists.mp isFound
    exact ⟨value, mem_of_get?_ofList found⟩
  · rintro ⟨value, member⟩
    exact isSome_get?_ofList member

/-- Of several entries under one key only the last one is left. -/
theorem entries_ofList_of_one_key
    {key : String}
    {pairs : List (String × α)}
    (oneKey : ∀ pair ∈ pairs, pair.1 = key) :
    (ofList pairs).entries = (pairs.getLast?.map (fun last => (key, last.2))).toList := by
  induction pairs using List.reverseRecOn with
  | nil => rfl
  | append_singleton pairs last inductionHypothesis =>
    have before := inductionHypothesis fun pair member =>
      oneKey pair (List.mem_append_left _ member)
    rw [ofList_concat, List.getLast?_concat,
      oneKey last (List.mem_append_right _ List.mem_cons_self)]
    change insertEntry key last.2 (ofList pairs).entries = [(key, last.2)]
    rw [before]
    cases pairs.getLast? with
    | none => rfl
    | some former =>
      simp only [Option.map_some, Option.toList_some, insertEntry, String.lt_irrefl, ↓reduceIte]

end Ledger

/-! ### Two ledgers side by side -/

/-- Lists whose elements are related look the same wherever related elements do. -/
theorem map_eq_map_of_forall₂
    {α β γ : Type}
    {related : α → β → Prop}
    {first : List α}
    {second : List β}
    {view : α → γ}
    {view' : β → γ}
    (alike : List.Forall₂ related first second)
    (same : ∀ element element', related element element' → view element = view' element') :
    first.map view = second.map view' := by
  have views := List.rel_map (R := related) (P := Eq) same alike
  rwa [List.forall₂_eq_eq_eq] at views

/-- Both entries are under one key, and their values are related. -/
def Alongside (related : α → β → Prop) (first : String × α) (second : String × β) : Prop :=
  first.1 = second.1 ∧ related first.2 second.2

theorem forall₂_insertEntry
    {related : α → β → Prop}
    {entries : List (String × α)}
    {entries' : List (String × β)}
    {key : String}
    {value : α}
    {value' : β}
    (alongside : List.Forall₂ (Alongside related) entries entries')
    (values : related value value') :
    List.Forall₂ (Alongside related) (insertEntry key value entries)
      (insertEntry key value' entries') := by
  induction alongside with
  | nil => exact .cons ⟨rfl, values⟩ .nil
  | @cons head head' rest rest' heads alongside inductionHypothesis =>
    obtain ⟨first, held⟩ := head
    obtain ⟨first', held'⟩ := head'
    obtain ⟨rfl, isHeld⟩ := heads
    unfold insertEntry
    split
    · exact .cons ⟨rfl, values⟩ (.cons ⟨rfl, isHeld⟩ alongside)
    · split
      · exact .cons ⟨rfl, isHeld⟩ inductionHypothesis
      · exact .cons ⟨rfl, values⟩ alongside

/-- Pairs that stand side by side make ledgers whose entries do. -/
theorem Ledger.forall₂_ofList
    {related : α → β → Prop}
    {pairs : List (String × α)}
    {pairs' : List (String × β)}
    (alongside : List.Forall₂ (Alongside related) pairs pairs') :
    List.Forall₂ (Alongside related) (ofList pairs).entries (ofList pairs').entries := by
  refine List.rel_foldl (R := Alongside related)
    (P := fun (ledger : Ledger α) (ledger' : Ledger β) =>
      List.Forall₂ (Alongside related) ledger.entries ledger'.entries) ?_ .nil alongside
  rintro ledger ledger' held ⟨key, value⟩ ⟨key', value'⟩ ⟨rfl, values⟩
  exact forall₂_insertEntry held values

end RepoVitals

import RepoVitals.Proofs.Batch
import RepoVitals.Proofs.Text.Bytes
/-!
Frozen batches: what is found in them, and how.

Owns:
- where halving ends, if the positions that are reached are those up to some position;
- `bodyOf?_eq_get?`: halving the entries finds what is written under an id;
- `lastUnder?`: the last of the documents with an id;
- `batch_is_last_wins`: a batch is the map from ids to the bodies of the last documents with them.

Documents of any kind count, since only their ids and bodies get into a batch.
-/

namespace RepoVitals.Batch

/-! ### Halving -/

/-- Halving ends at the last position that is reached. -/
theorem bisect_eq
    {reaches : Nat → Bool}
    {base size last : Nat}
    (inside : base ≤ last ∧ last < base + size)
    (upTo : ∀ position, position < base + size → (reaches position = true ↔ position ≤ last)) :
    bisect reaches base size = last := by
  fun_induction bisect reaches base size with
  | case1 base size single => omega
  | case2 base size several middle inductionHypothesis =>
    have middleIs : middle = base + size / 2 := rfl
    have reached := upTo middle (by omega)
    by_cases isReached : reaches middle = true
    · have behind := reached.mp isReached
      simp only [dif_pos isReached, if_pos isReached] at inductionHypothesis ⊢
      exact inductionHypothesis (by omega) fun position bounded => upTo position (by omega)
    · have before : ¬middle ≤ last := fun isBefore => isReached (reached.mpr isBefore)
      simp only [dif_neg isReached, if_neg isReached] at inductionHypothesis ⊢
      exact inductionHypothesis (by omega) fun position bounded => upTo position (by omega)

theorem pairwise_ids (batch : Batch) :
    batch.documents.Pairwise (fun first second => first.id < second.id) := by
  rw [documents, List.pairwise_map]
  exact batch.ascending

/-- Halving the entries finds what is written under an id, and nothing else. -/
theorem bodyOf?_eq_get? (batch : Batch) (id : String) : batch.bodyOf? id = batch.get? id := by
  apply Option.ext
  intro body
  rw [bodyOf?, Option.map_eq_some_iff]
  constructor
  · rintro ⟨entry, found, rfl⟩
    obtain ⟨isEntry, same⟩ := Option.filter_eq_some_iff.mp found
    rw [← of_decide_eq_true same]
    exact mem_documents_iff.mp (List.mem_of_getElem? isEntry)
  · intro found
    have member : (⟨id, body⟩ : Entry) ∈ batch.documents := mem_documents_iff.mpr found
    obtain ⟨place, inside, isPlace⟩ := List.getElem_of_mem member
    have ascending := List.pairwise_iff_getElem.mp batch.pairwise_ids
    -- What is not greater than the id stands before it or is it.
    have isLast : bisect (fun position =>
        batch.documents[position]?.any (fun entry => ¬id < entry.id)) 0 batch.documents.length =
          place := by
      refine bisect_eq ⟨Nat.zero_le _, by omega⟩ fun position bounded => ?_
      have bounded : position < batch.documents.length := by omega
      rw [List.getElem?_eq_getElem bounded, Option.any_some, decide_eq_true_iff]
      constructor
      · intro notAbove
        by_contra behind
        have above := ascending place position inside bounded (by omega)
        rw [isPlace] at above
        exact notAbove above
      · intro before above
        rcases Nat.lt_or_eq_of_le before with earlier | rfl
        · have below := ascending position place bounded inside earlier
          rw [isPlace] at below
          exact String.lt_asymm above below
        · rw [isPlace] at above
          exact String.lt_irrefl _ above
    refine ⟨⟨id, body⟩, ?_, rfl⟩
    simp only [isLast, List.getElem?_eq_getElem inside, isPlace]
    simp

/-! ### The last document with an id -/

section Inserted

variable {α : Type} (entryOf : α → Entry)

/-- The last of the documents with an id. -/
def lastUnder? (id : String) (inserted : List α) : Option α :=
  (inserted.filter (fun document => (entryOf document).id = id)).getLast?

theorem get?_ofEntries (inserted : List α) (id : String) :
    (ofEntries (inserted.map entryOf)).get? id =
      (lastUnder? entryOf id inserted).map (fun document => (entryOf document).body) := by
  rw [ofEntries, List.map_map, lastUnder?]
  induction inserted using List.reverseRecOn with
  | nil => rfl
  | append_singleton inserted last inductionHypothesis =>
    rw [List.map_append, List.map_singleton, Ledger.ofList_concat, Ledger.get?_insert,
      List.filter_append]
    by_cases same : id = (entryOf last).id
    · have kept : [last].filter (fun document => (entryOf document).id = id) = [last] := by
        simp [same]
      rw [kept, List.getLast?_concat, Function.comp_apply, if_pos same]
      rfl
    · have dropped : [last].filter (fun document => (entryOf document).id = id) = [] := by
        simp [Ne.symm same]
      rw [dropped, List.append_nil, Function.comp_apply, if_neg same, inductionHypothesis]

theorem mem_keys_ofEntries (inserted : List α) (id : String) :
    id ∈ (ofEntries (inserted.map entryOf)).keys ↔
      id ∈ inserted.map (fun document => (entryOf document).id) := by
  rw [Ledger.mem_keys_iff, get?_ofEntries, Option.isSome_map, lastUnder?, List.getLast?_isSome,
    Ne, List.filter_eq_nil_iff, List.mem_map]
  simp

theorem size_ofEntries (inserted : List α) :
    (ofEntries (inserted.map entryOf)).size =
      (inserted.map (fun document => (entryOf document).id)).dedup.length := by
  have keys : (ofEntries (inserted.map entryOf)).keys.Perm
      (inserted.map (fun document => (entryOf document).id)).dedup := by
    refine (List.perm_ext_iff_of_nodup (Ledger.unrepeated _) (List.nodup_dedup _)).mpr ?_
    intro id
    rw [List.mem_dedup]
    exact mem_keys_ofEntries entryOf inserted id
  rw [← keys.length_eq, Ledger.keys, List.length_map]
  rfl

theorem isEmpty_ofEntries (inserted : List α) :
    (ofEntries (inserted.map entryOf)).documents.isEmpty = inserted.isEmpty := by
  cases inserted with
  | nil => rfl
  | cons document rest =>
    have written := (mem_keys_ofEntries entryOf (document :: rest) _).mpr
      List.mem_cons_self
    obtain ⟨entry, isEntry, -⟩ := List.mem_map.mp written
    rw [List.isEmpty_cons, List.isEmpty_eq_false_iff_exists_mem]
    exact ⟨_, List.mem_map_of_mem isEntry⟩

/-- **A frozen batch is the last-wins map of what was inserted.**  Its ids ascend byte by byte, it
is as long as there are different ids, an id is found by halving exactly if it was inserted, with
the body of the last document under it, and nothing but these last bodies tells two batches
apart. -/
theorem batch_is_last_wins (inserted : List α) :
    ((ofEntries (inserted.map entryOf)).documents.map Entry.id).Pairwise
        (fun first second => first.toUTF8.toList < second.toUTF8.toList) ∧
      (ofEntries (inserted.map entryOf)).size =
        (inserted.map (fun document => (entryOf document).id)).dedup.length ∧
      (ofEntries (inserted.map entryOf)).documents.isEmpty = inserted.isEmpty ∧
      (∀ id, (ofEntries (inserted.map entryOf)).bodyOf? id =
        (lastUnder? entryOf id inserted).map (fun document => (entryOf document).body)) ∧
      ∀ inserted' : List α,
        ofEntries (inserted'.map entryOf) = ofEntries (inserted.map entryOf) ↔
          ∀ id, (lastUnder? entryOf id inserted').map (fun document => (entryOf document).body) =
            (lastUnder? entryOf id inserted).map (fun document => (entryOf document).body) := by
  refine ⟨?_, size_ofEntries entryOf inserted, isEmpty_ofEntries entryOf inserted, fun id => ?_,
    fun inserted' => ?_⟩
  · rw [List.pairwise_map]
    exact (pairwise_ids _).imp fun below => (Text.utf8_lt_iff _ _).mpr below
  · rw [bodyOf?_eq_get?, get?_ofEntries]
  · constructor
    · intro same id
      rw [← get?_ofEntries, ← get?_ofEntries, same]
    · intro same
      apply Ledger.ext_get?
      intro id
      rw [get?_ofEntries, get?_ofEntries, same id]

end Inserted

end RepoVitals.Batch

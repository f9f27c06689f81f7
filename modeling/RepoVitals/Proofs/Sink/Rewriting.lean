import RepoVitals.Proofs.Ledger
import RepoVitals.Proofs.Sink.Memory
/-!
Writes over earlier writes.

Owns:
- what a sequence of writes leaves behind: under which indexes and ids, and in which order it
  matters;
- `bodyUnder?_rewritten`: two sequences of writes that go to the same places, the second on whatever
  there is;
- `Memory.Gains`: the store after it has taken in whole loads of documents, whatever its log says;
- `Memory.Gains.again`: the same store once it has taken in loads for the same places again.
-/

namespace RepoVitals.Sink

open Index (Settings)

variable {documents documents' : Ledger (Ledger String)} {writes writes' : List Written}
  {index id : String}

/-! ### Documents by index and id -/

/-- Documents are told by the indexes that have some and by the bodies under ids. -/
theorem documents_ext
    (sameIndexes : ∀ index, (documents.get? index).isSome = (documents'.get? index).isSome)
    (sameBodies : ∀ index id, bodyUnder? documents index id = bodyUnder? documents' index id) :
    documents = documents' := by
  refine Ledger.ext_get? fun index => ?_
  have indexes := sameIndexes index
  cases held : documents.get? index with
  | none =>
    cases held' : documents'.get? index with
    | none => rfl
    | some ledger' => simp [held, held'] at indexes
  | some ledger =>
    cases held' : documents'.get? index with
    | none => simp [held, held'] at indexes
    | some ledger' =>
      refine congrArg some (Ledger.ext_get? fun id => ?_)
      have bodies := sameBodies index id
      rw [bodyUnder?, bodyUnder?, held, held'] at bodies
      exact bodies

theorem isSome_get?_foldl (writes : List Written) (documents : Ledger (Ledger String))
    (index : String) :
    ((writes.foldl Written.onto documents).get? index).isSome =
      (decide (index ∈ writes.map Written.index) || (documents.get? index).isSome) := by
  induction writes generalizing documents with
  | nil => rfl
  | cons head rest inductionHypothesis =>
    rw [List.foldl_cons, inductionHypothesis, Written.onto, Ledger.get?_insert, List.map_cons]
    by_cases here : index = head.index
    · simp [here]
    · simp [here]

/-- Where no id is written twice, the order does not matter. -/
theorem foldl_onto_of_perm
    (same : writes'.Perm writes)
    (once : (writes.map fun written => written.document.id).Nodup) :
    writes'.foldl Written.onto documents = writes.foldl Written.onto documents := by
  have once' : (writes'.map fun written => written.document.id).Nodup :=
    (same.map _).nodup_iff.mpr once
  apply documents_ext
  · intro index
    rw [isSome_get?_foldl, isSome_get?_foldl]
    simp only [(same.map Written.index).mem_iff]
  · intro index id
    by_cases written : ∃ each ∈ writes, each.index = index ∧ each.document.id = id
    · obtain ⟨each, member, rfl, rfl⟩ := written
      rw [bodyUnder?_foldl_of_mem member once,
        bodyUnder?_foldl_of_mem (same.mem_iff.mpr member) once']
    · have others : ∀ each ∈ writes, ¬(each.index = index ∧ each.document.id = id) :=
        fun each member both => written ⟨each, member, both⟩
      rw [bodyUnder?_foldl_of_not_mem others, bodyUnder?_foldl_of_not_mem fun each member =>
        others each (same.mem_iff.mp member)]

/-! ### Two sequences to the same places -/

/-- Both writes go to one place, with bodies that are related. -/
def SamePlace (related : String → String → Prop) (first second : Written) : Prop :=
  first.index = second.index ∧ first.document.id = second.document.id ∧
    related first.document.body second.document.body

/-- After two sequences of writes to the same places, what is found anywhere was written by both,
with bodies that are related, or by neither. -/
theorem bodyUnder?_rewritten
    {related : String → String → Prop}
    (places : List.Forall₂ (SamePlace related) writes writes')
    (documents documents' : Ledger (Ledger String))
    (index id : String) :
    (bodyUnder? (writes.foldl Written.onto documents) index id = bodyUnder? documents index id ∧
      bodyUnder? (writes'.foldl Written.onto documents') index id =
        bodyUnder? documents' index id) ∨
    ∃ body body', bodyUnder? (writes.foldl Written.onto documents) index id = some body ∧
      bodyUnder? (writes'.foldl Written.onto documents') index id = some body' ∧
      related body body' := by
  induction places generalizing documents documents' with
  | nil => exact .inl ⟨rfl, rfl⟩
  | @cons head head' rest rest' heads places inductionHypothesis =>
    obtain ⟨sameIndex, sameId, bodies⟩ := heads
    simp only [List.foldl_cons]
    rcases inductionHypothesis (head.onto documents) (head'.onto documents') with
      ⟨untouched, untouched'⟩ | touched
    · rw [untouched, untouched', bodyUnder?_onto, bodyUnder?_onto, ← sameIndex, ← sameId]
      by_cases here : head.index = index ∧ head.document.id = id
      · simp only [if_pos here]
        exact .inr ⟨_, _, rfl, rfl, bodies⟩
      · simp only [if_neg here, true_and]
        exact .inl trivial
    · exact .inr touched

/-- Writes that are made once more change nothing. -/
theorem foldl_onto_again (writes : List Written) (documents : Ledger (Ledger String)) :
    writes.foldl Written.onto (writes.foldl Written.onto documents) =
      writes.foldl Written.onto documents := by
  apply documents_ext
  · intro index
    rw [isSome_get?_foldl, isSome_get?_foldl, ← Bool.or_assoc, Bool.or_self]
  · intro index id
    have places : List.Forall₂ (SamePlace Eq) writes writes :=
      List.forall₂_same.mpr fun written _ => ⟨rfl, rfl, rfl⟩
    rcases bodyUnder?_rewritten places documents (writes.foldl Written.onto documents) index id with
      ⟨-, untouched⟩ | ⟨body, body', found, found', rfl⟩
    · exact untouched
    · rw [found, found']

/-! ### Loads -/

/-- Both loads are for the same places, with bodies that are related. -/
def Cargo.SamePlaces (related : String → String → Prop) (first second : Cargo) : Prop :=
  first.index = second.index ∧
    List.Forall₂ (fun document document' => document.id = document'.id ∧
      related document.body document'.body) first.documents second.documents

theorem Cargo.forall₂_writes
    {related : String → String → Prop}
    {first second : Cargo}
    (places : first.SamePlaces related second)
    (rejected : List String) :
    List.Forall₂ (SamePlace related) (first.writes rejected) (second.writes rejected) := by
  obtain ⟨sameIndex, documents⟩ := places
  refine List.rel_map ?_ (List.rel_filter ?_ documents)
  · rintro document document' ⟨sameId, bodies⟩
    exact ⟨sameIndex, sameId, bodies⟩
  · rintro document document' ⟨sameId, -⟩
    simp only [sameId]

namespace Memory

/-- What a store goes by has not changed. -/
structure SameKnobs (store after : Memory) : Prop where
  latency : after.latency = store.latency
  rejected : after.rejected = store.rejected
  broken : after.broken = store.broken

/-- The store has taken in whole loads, each into an index that it has by then. -/
structure Gains (cargos : List Cargo) (store after : Memory) : Prop extends
    SameKnobs store after where
  documents : after.documents =
    (cargos.flatMap (Cargo.writes store.rejected)).foldl Written.onto store.documents
  kept : ∀ index ∈ store.indexes, index ∈ after.indexes
  ensured : ∀ cargo ∈ cargos, cargo.index ∈ after.indexes
  /-- No index comes to those that the store has. -/
  quiet : (∀ cargo ∈ cargos, cargo.index ∈ store.indexes) →
    after.indexes = store.indexes ∧ after.created = store.created

variable {store middle after : Memory} {cargos more : List Cargo}

theorem SameKnobs.trans (first : SameKnobs store middle) (second : SameKnobs middle after) :
    SameKnobs store after where
  latency := second.latency.trans first.latency
  rejected := second.rejected.trans first.rejected
  broken := second.broken.trans first.broken

theorem SameKnobs.symm (same : SameKnobs store after) : SameKnobs after store where
  latency := same.latency.symm
  rejected := same.rejected.symm
  broken := same.broken.symm

theorem Gains.refl (store : Memory) : Gains [] store store where
  latency := rfl
  rejected := rfl
  broken := rfl
  documents := rfl
  kept := fun _ isIndex => isIndex
  ensured := nofun
  quiet := fun _ => ⟨rfl, rfl⟩

theorem Gains.trans (first : Gains cargos store middle) (second : Gains more middle after) :
    Gains (cargos ++ more) store after where
  toSameKnobs := first.toSameKnobs.trans second.toSameKnobs
  documents := by
    rw [second.documents, first.rejected, first.documents, List.flatMap_append, List.foldl_append]
  kept := fun index isIndex => second.kept index (first.kept index isIndex)
  ensured := by
    intro cargo member
    rcases List.mem_append.mp member with isFirst | isSecond
    · exact second.kept _ (first.ensured cargo isFirst)
    · exact second.ensured cargo isSecond
  quiet := by
    intro present
    obtain ⟨indexes, created⟩ := first.quiet fun cargo member =>
      present cargo (List.mem_append_left _ member)
    obtain ⟨indexes', created'⟩ := second.quiet fun cargo member =>
      indexes ▸ present cargo (List.mem_append_right _ member)
    exact ⟨indexes'.trans indexes, created'.trans created⟩

/-- Making sure of an index adds it, unless the store has it. -/
theorem exists_ensured (settings : Settings) (index : String) (store : Memory) :
    ∃ ensured, Index.ensure memory settings index store = (.ok (), ensured) ∧
      Gains [⟨index, []⟩] store ensured := by
  by_cases present : index ∈ store.indexes
  · have contains : store.indexes.contains index = true := List.contains_iff_mem.mpr present
    refine ⟨store, by simp only [Index.ensure, Index.Stage.step, memory, contains], ?_⟩
    have unchanged := Gains.refl store
    exact { unchanged with ensured := by simpa using present, quiet := fun _ => ⟨rfl, rfl⟩ }
  · have contains : store.indexes.contains index = false :=
      Bool.eq_false_iff.mpr fun holds => present (List.contains_iff_mem.mp holds)
    refine ⟨(store.create index settings).2,
      by simp only [Index.ensure, Index.Stage.step, memory, contains], ?_⟩
    have indexes : (store.create index settings).2.indexes = store.indexes ++ [index] := by
      simp only [create, contains]
      split <;> rfl
    constructor
    · constructor <;>
      · simp only [create, contains]
        split <;> rfl
    · simp only [create, contains]
      split <;> rfl
    · intro other isOther
      rw [indexes]
      exact List.mem_append_left _ isOther
    · intro cargo member
      rw [List.mem_singleton.mp member, indexes]
      exact List.mem_append_right _ List.mem_cons_self
    · exact fun all => absurd (all _ List.mem_cons_self) present

/-! ### Loads for the same places -/

/-- The store has the indexes and the ids that it had before, and under each id the body that was
there or one that is related to it. -/
structure Overwritten (related : String → String → Prop) (before after : Memory) : Prop where
  indexes : after.indexes = before.indexes
  created : after.created = before.created
  holding : ∀ index, (after.documents.get? index).isSome = (before.documents.get? index).isSome
  bodies : ∀ index id,
    bodyUnder? after.documents index id = bodyUnder? before.documents index id ∨
    ∃ body body', bodyUnder? before.documents index id = some body ∧
      bodyUnder? after.documents index id = some body' ∧ related body body'

theorem Overwritten.ids_iff
    {related : String → String → Prop}
    (overwritten : Overwritten related store after)
    (index id : String) :
    id ∈ (after.documentsOf index).keys ↔ id ∈ (store.documentsOf index).keys := by
  rw [Ledger.mem_keys_iff, Ledger.mem_keys_iff]
  show (bodyUnder? after.documents index id).isSome = true ↔
    (bodyUnder? store.documents index id).isSome = true
  rcases overwritten.bodies index id with same | ⟨body, body', found, found', -⟩
  · rw [same]
  · rw [found, found']
    exact Iff.rfl

/-- A store that takes in the same loads again has the same documents. -/
theorem Gains.documents_again (first : Gains cargos store middle)
    (second : Gains cargos middle after) :
    after.documents = middle.documents := by
  rw [second.documents, first.rejected, first.documents, foldl_onto_again]

/-- A store that takes in loads for the same places again keeps what it has, but for the bodies. -/
theorem Gains.again
    {related : String → String → Prop}
    (first : Gains cargos store middle)
    (second : Gains more middle after)
    (places : List.Forall₂ (Cargo.SamePlaces related) cargos more) :
    Overwritten related middle after := by
  have writes : List.Forall₂ (SamePlace related)
      (cargos.flatMap (Cargo.writes store.rejected)) (more.flatMap (Cargo.writes store.rejected)) :=
    List.rel_flatMap places fun _ _ same => Cargo.forall₂_writes same store.rejected
  have before := first.documents
  have documents := second.documents
  rw [first.rejected] at documents
  have present : ∀ cargo ∈ more, cargo.index ∈ middle.indexes := by
    have indexes : cargos.map Cargo.index = more.map Cargo.index :=
      map_eq_map_of_forall₂ places fun _ _ same => same.1
    intro cargo' isMore
    have isIndex := List.mem_map_of_mem (f := Cargo.index) isMore
    rw [← indexes] at isIndex
    obtain ⟨cargo, member, sameIndex⟩ := List.mem_map.mp isIndex
    exact sameIndex ▸ first.ensured cargo member
  constructor
  · exact (second.quiet present).1
  · exact (second.quiet present).2
  · intro index
    have indexes := map_eq_map_of_forall₂ writes fun _ _ same => same.1
    rw [documents, isSome_get?_foldl, before, isSome_get?_foldl, indexes, ← Bool.or_assoc,
      Bool.or_self]
  · intro index id
    have rewritten := bodyUnder?_rewritten writes store.documents middle.documents index id
    rw [← before, ← documents] at rewritten
    exact rewritten.imp_left And.right

end Memory

end RepoVitals.Sink

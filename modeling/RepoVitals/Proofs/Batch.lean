import RepoVitals.Batch
import RepoVitals.Proofs.Ledger
import Mathlib.Data.List.Dedup
import Mathlib.Data.List.ProdSigma
/-!
Batches: which documents they hold.

Owns:
- the ids of a batch, which do not repeat;
- what a batch holds of two lists of documents, of which the later one overwrites the earlier one;
- `Batch.documents_perm`: a batch made of documents holds each of them once, however often and in
  whatever order they were put in, if their keys get different ids;
- the same for documents that are filed under keys of their own, and for those of all pairs of
  repositories and subjects.
-/

namespace RepoVitals

open Identity (NaturalKey documentId)

/-- Different keys of the list get different ids. -/
def DistinctIds (keys : List NaturalKey) : Prop :=
  ∀ first ∈ keys, ∀ second ∈ keys, documentId first = documentId second → first = second

instance (keys : List NaturalKey) : Decidable (DistinctIds keys) := by
  unfold DistinctIds
  infer_instance

theorem DistinctIds.of_subset
    {keys keys' : List NaturalKey}
    (distinct : DistinctIds keys)
    (subset : keys' ⊆ keys) :
    DistinctIds keys' :=
  fun first isFirst second isSecond => distinct first (subset isFirst) second (subset isSecond)

namespace Batch

theorem unrepeated_ids (batch : Batch) : (batch.documents.map Entry.id).Nodup := by
  have unrepeated := batch.unrepeated
  rw [documents, List.map_map]
  exact unrepeated

theorem mem_documents_iff {batch : Batch} {entry : Entry} :
    entry ∈ batch.documents ↔ batch.get? entry.id = some entry.body := by
  rw [Ledger.get?_eq_some_iff, documents, List.mem_map]
  constructor
  · rintro ⟨pair, member, rfl⟩
    exact member
  · intro member
    exact ⟨_, member, rfl⟩

/-- What a batch of documents holds under an id comes from a document with that id. -/
theorem document_of_get?
    {documents : List Document}
    {id body : String}
    (found : (ofDocuments documents).get? id = some body) :
    ∃ document ∈ documents, document.id = id ∧ document.body = body := by
  have member := Ledger.mem_of_get?_ofList found
  rw [List.map_map] at member
  obtain ⟨document, isDocument, same⟩ := List.mem_map.mp member
  simp only [Function.comp_apply, Document.entry_id, Document.entry_body, Prod.mk.injEq] at same
  exact ⟨document, isDocument, same⟩

theorem isSome_get?_of_mem
    {documents : List Document}
    {document : Document}
    (member : document ∈ documents) :
    ((ofDocuments documents).get? document.id).isSome = true := by
  have written : (document.id, document.body) ∈
      (documents.map Document.entry).map (fun entry => (entry.id, entry.body)) := by
    rw [List.map_map]
    refine List.mem_map.mpr ⟨document, member, ?_⟩
    simp only [Function.comp_apply, Document.entry_id, Document.entry_body]
  exact Ledger.isSome_get?_ofList written

/-- The batch of two lists of documents is that of the first, overwritten by that of the second. -/
theorem get?_ofDocuments_append (first second : List Document) (id : String) :
    (ofDocuments (first ++ second)).get? id =
      ((ofDocuments second).get? id).or ((ofDocuments first).get? id) := by
  unfold ofDocuments ofEntries
  rw [List.map_append, List.map_append, Ledger.get?_ofList_append]

theorem ofDocuments_append_congr
    {first first' second second' : List Document}
    (sameFirst : ofDocuments first = ofDocuments first')
    (sameSecond : ofDocuments second = ofDocuments second') :
    ofDocuments (first ++ second) = ofDocuments (first' ++ second') := by
  apply Ledger.ext_get?
  intro id
  rw [get?_ofDocuments_append, get?_ofDocuments_append, sameFirst, sameSecond]

theorem ofDocuments_flatMap_congr
    {ι : Type}
    {documents documents' : ι → List Document}
    (subjects : List ι)
    (same : ∀ subject, ofDocuments (documents subject) = ofDocuments (documents' subject)) :
    ofDocuments (subjects.flatMap documents) = ofDocuments (subjects.flatMap documents') := by
  induction subjects with
  | nil => rfl
  | cons subject rest inductionHypothesis =>
    rw [List.flatMap_cons, List.flatMap_cons]
    exact ofDocuments_append_congr (same subject) inductionHypothesis

/-- A document is lost where a later one has its id. -/
theorem ofDocuments_cons_of_overwritten
    {document later : Document}
    {rest : List Document}
    (isLater : later ∈ rest)
    (sameId : later.id = document.id) :
    ofDocuments (document :: rest) = ofDocuments rest := by
  apply Ledger.ext_get?
  intro id
  rw [← List.singleton_append, get?_ofDocuments_append]
  cases found : (ofDocuments rest).get? id with
  | some body => rfl
  | none =>
    rw [Option.none_or]
    cases lost : (ofDocuments [document]).get? id with
    | none => rfl
    | some body =>
      obtain ⟨_, isDocument, rfl, -⟩ := document_of_get? lost
      have written := isSome_get?_of_mem isLater
      rw [sameId, ← List.mem_singleton.mp isDocument, found] at written
      cases written

/-- It is kept where no later one has its id. -/
theorem mem_documents_of_last
    {document : Document}
    {rest : List Document}
    (isLast : ∀ later ∈ rest, later.id ≠ document.id) :
    document.entry ∈ (ofDocuments (document :: rest)).documents := by
  have notLater : (ofDocuments rest).get? document.id = none := by
    cases found : (ofDocuments rest).get? document.id with
    | none => rfl
    | some body =>
      obtain ⟨later, isLater, sameId, -⟩ := document_of_get? found
      exact absurd sameId (isLast later isLater)
  obtain ⟨body, found⟩ :=
    Option.isSome_iff_exists.mp (isSome_get?_of_mem (List.mem_singleton_self document))
  obtain ⟨_, isDocument, -, rfl⟩ := document_of_get? found
  rw [mem_documents_iff, Document.entry_id, Document.entry_body, ← List.singleton_append,
    get?_ofDocuments_append, notLater, Option.none_or, found, List.mem_singleton.mp isDocument]

theorem documents_perm
    {documents expected : List Document}
    (same : ∀ document, document ∈ documents ↔ document ∈ expected)
    (unrepeated : (expected.map Document.key).Nodup)
    (distinct : DistinctIds (expected.map Document.key)) :
    (ofDocuments documents).documents.Perm (expected.map Document.entry) := by
  -- Among the expected documents an id tells the document.
  have told : ∀ first ∈ expected, ∀ second ∈ expected, first.id = second.id → first = second := by
    intro first isFirst second isSecond sameId
    apply List.inj_on_of_nodup_map unrepeated isFirst isSecond
    exact distinct _ (List.mem_map_of_mem isFirst) _ (List.mem_map_of_mem isSecond) sameId
  have unrepeatedEntries : (expected.map Document.entry).Nodup := by
    refine List.Nodup.map_on ?_ (List.Nodup.of_map _ unrepeated)
    intro first isFirst second isSecond sameEntry
    have sameId := congrArg Entry.id sameEntry
    rw [Document.entry_id, Document.entry_id] at sameId
    exact told first isFirst second isSecond sameId
  refine (List.perm_ext_iff_of_nodup (unrepeated_ids _).of_map unrepeatedEntries).mpr ?_
  intro entry
  rw [mem_documents_iff]
  constructor
  · intro found
    obtain ⟨document, member, sameId, sameBody⟩ := document_of_get? found
    refine List.mem_map.mpr ⟨document, (same document).mp member, ?_⟩
    rw [Document.entry, sameId, sameBody]
  · intro member
    obtain ⟨document, isExpected, rfl⟩ := List.mem_map.mp member
    obtain ⟨body, found⟩ := Option.isSome_iff_exists.mp
      (isSome_get?_of_mem ((same document).mpr isExpected))
    obtain ⟨other, isOther, sameId, sameBody⟩ := document_of_get? found
    have isDocument := told other ((same other).mp isOther) document isExpected sameId
    rw [Document.entry_id, Document.entry_body, found, ← sameBody, isDocument]

/-- A batch of documents that are filed under keys of their own. -/
theorem documents_perm_of_keys
    {ι : Type}
    {documents : List Document}
    {subjects : List ι}
    {document : ι → Document}
    {key : ι → NaturalKey}
    (keys : ∀ subject ∈ subjects, (document subject).key = key subject)
    (same : ∀ found, found ∈ documents ↔ found ∈ subjects.map document)
    (unrepeated : (subjects.map key).Nodup)
    (distinct : DistinctIds (subjects.map key)) :
    (ofDocuments documents).documents.Perm (subjects.map (fun subject =>
      ⟨documentId (key subject), (document subject).body⟩)) := by
  have isKeys : (subjects.map document).map Document.key = subjects.map key := by
    rw [List.map_map]
    exact List.map_congr_left keys
  have isEntries : subjects.map (fun subject =>
      (⟨documentId (key subject), (document subject).body⟩ : Entry)) =
      (subjects.map document).map Document.entry := by
    rw [List.map_map]
    apply List.map_congr_left
    intro subject member
    rw [← keys subject member]
    rfl
  rw [isEntries]
  apply documents_perm same
  · rwa [isKeys]
  · rwa [isKeys]

/-- The documents of all pairs of repositories and subjects: a repository that is listed again adds
nothing. -/
theorem documents_perm_of_pairs
    {ι : Type}
    {repositories : List String}
    {subjects : List ι}
    {document : String × ι → Document}
    {key : String × ι → NaturalKey}
    (keys : ∀ pair ∈ repositories.dedup ×ˢ subjects, (document pair).key = key pair)
    (unrepeated : ((repositories.dedup ×ˢ subjects).map key).Nodup)
    (distinct : DistinctIds ((repositories.dedup ×ˢ subjects).map key)) :
    (ofDocuments ((repositories ×ˢ subjects).map document)).documents.Perm
      ((repositories.dedup ×ˢ subjects).map (fun pair =>
        ⟨documentId (key pair), (document pair).body⟩)) := by
  refine documents_perm_of_keys keys (fun found => ?_) unrepeated distinct
  rw [List.mem_map, List.mem_map]
  refine exists_congr fun pair => ?_
  rw [List.mem_product, List.mem_product, List.mem_dedup]

end Batch

end RepoVitals

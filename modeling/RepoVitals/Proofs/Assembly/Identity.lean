import RepoVitals.Proofs.Assembly.Results
import RepoVitals.Proofs.Batch
import RepoVitals.Proofs.Document
/-!
What stored documents say about themselves.

Owns:
- documents that are filed as they should be, and drafts that hold no others;
- the batch of an assembly, all of whose documents are filed that way, whatever the executor
  answers;
- `stored_documents_carry_identity`: every body in such a batch names the id it is stored under, and
  the id can be computed again from what the body says.
-/

namespace RepoVitals.Assembly

open Catalogue (Family Release Row Side)
open Identity (documentId)
open Json (Value)
open Search (Request Response)

/-- The document is filed under the family, with its day and date, and its numbers are small. -/
structure DocumentIsOf (filing : Filing) (document : Document) : Prop where
  bucket : document.origin.bucket = filing.bucket
  currentDate : document.origin.currentDate = filing.currentDate
  report : document.report.IsOf filing.family
  small : document.report.IsSmall

/-- Labels are gathered in the label family only, and their counts are small. -/
def LabelsAreOf (filing : Filing) (labels : Ledger LabelCounts) : Prop :=
  ∀ entry ∈ labels.entries,
    filing.family = .labels ∧ IsInt64 entry.2.issues ∧ IsInt64 entry.2.pulls

variable {filing : Filing}

/-! ### Single documents -/

theorem documentIsOf_of_documentOf?
    {repository name : String}
    {finding : Finding}
    {document : Document}
    (isOf : FindingIsOf filing.family finding)
    (found : documentOf? filing repository name finding = some document) :
    DocumentIsOf filing document := by
  obtain ⟨kind, small, threshold⟩ := isOf
  unfold documentOf? at found
  cases isExtracted : finding.extracted with
  | count figure =>
    rw [isExtracted] at found kind small
    cases found
    exact ⟨rfl, rfl, ⟨rfl, kind⟩, ⟨small, threshold⟩⟩
  | status figure value =>
    rw [isExtracted] at found kind small
    cases found
    exact ⟨rfl, rfl, ⟨rfl, kind⟩, ⟨small, threshold⟩⟩
  | coverage snapshot =>
    rw [isExtracted] at found kind
    cases found
    exact ⟨rfl, rfl, kind, trivial⟩
  | labels side counts =>
    rw [isExtracted] at found
    cases found

theorem documentIsOf_of_mem_labelDocuments
    {repository : String}
    {labels : Ledger LabelCounts}
    (areOf : LabelsAreOf filing labels) :
    ∀ document ∈ labelDocuments filing repository labels, DocumentIsOf filing document := by
  intro document member
  obtain ⟨entry, isEntry, rfl⟩ := List.mem_map.mp member
  obtain ⟨isLabels, issues, pulls⟩ := areOf entry isEntry
  exact ⟨rfl, rfl, isLabels, ⟨issues, pulls⟩⟩

/-! ### Labels -/

theorem labelsAreOf_empty : LabelsAreOf filing Ledger.empty :=
  fun _ member => absurd member List.not_mem_nil

theorem labelsAreOf_insert
    {labels : Ledger LabelCounts}
    {label : String}
    {counts : LabelCounts}
    (areOf : LabelsAreOf filing labels)
    (isLabels : filing.family = .labels)
    (issues : IsInt64 counts.issues)
    (pulls : IsInt64 counts.pulls) :
    LabelsAreOf filing (labels.insert label counts) := by
  intro entry member
  rcases mem_insertEntry member with isNew | isOld
  · rw [isNew]
    exact ⟨isLabels, issues, pulls⟩
  · exact areOf entry isOld

/-- Taking one more count into the labels leaves them small. -/
theorem labelsAreOf_mergeLabels
    {labels : Ledger LabelCounts}
    {counts : Ledger Int}
    (side : Side)
    (isLabels : filing.family = .labels)
    (areOf : LabelsAreOf filing labels)
    (counted : Search.Response.Counted counts) :
    LabelsAreOf filing (mergeLabels labels side counts) := by
  have counted : ∀ entry ∈ counts.entries, IsInt64 entry.2 := counted
  unfold mergeLabels mergeEntries
  generalize counts.entries = entries at counted
  induction entries generalizing labels with
  | nil => exact areOf
  | cons entry rest inductionHypothesis =>
    -- One side of the label is written, the other stays as it was, or is zero for a new label.
    have smallCount := counted entry List.mem_cons_self
    have smallBefore : IsInt64 ((labels.get? entry.1).getD ⟨0, 0⟩).issues ∧
        IsInt64 ((labels.get? entry.1).getD ⟨0, 0⟩).pulls := by
      cases found : labels.get? entry.1 with
      | none => exact ⟨by decide, by decide⟩
      | some held => exact (areOf (entry.1, held) (Ledger.get?_eq_some_iff.mp found)).2
    apply inductionHypothesis
    · cases side with
      | issues => exact labelsAreOf_insert areOf isLabels smallCount smallBefore.2
      | pulls => exact labelsAreOf_insert areOf isLabels smallBefore.1 smallCount
    · exact fun other member => counted other (List.mem_cons_of_mem _ member)

/-! ### Drafts -/

/-- What the draft has written, and what it has gathered, is of the filing. -/
structure DraftIsOf (filing : Filing) (draft : Draft) : Prop where
  documents : ∀ document ∈ draft.reversed, DocumentIsOf filing document
  labels : LabelsAreOf filing draft.labels

theorem draftIsOf_empty : DraftIsOf filing Draft.empty :=
  ⟨fun _ member => absurd member List.not_mem_nil, labelsAreOf_empty⟩

variable {draft : Draft} {repositories rowNames : List String}

theorem draftIsOf_flush (isOf : DraftIsOf filing draft) :
    DraftIsOf filing (draft.flush filing repositories) := by
  unfold Draft.flush
  split
  · exact isOf
  · refine ⟨fun document member => ?_, labelsAreOf_empty⟩
    rcases List.mem_append.mp member with fresh | old
    · exact documentIsOf_of_mem_labelDocuments isOf.labels document (List.mem_reverse.mp fresh)
    · exact isOf.documents document old

theorem draftIsOf_enter (isOf : DraftIsOf filing draft) (index : Nat) :
    DraftIsOf filing (draft.enter filing repositories index) := by
  unfold Draft.enter
  split
  · exact isOf
  · exact ⟨(draftIsOf_flush isOf).documents, (draftIsOf_flush isOf).labels⟩

/-- One more measurement of the family leaves the draft as it should be. -/
theorem draftIsOf_add
    {measurement : Placed Finding}
    (isOf : DraftIsOf filing draft)
    (findingIsOf : FindingIsOf filing.family measurement.result) :
    DraftIsOf filing (draft.add filing repositories rowNames measurement) := by
  have entered : DraftIsOf filing (draft.enter filing repositories measurement.repository) :=
    draftIsOf_enter isOf measurement.repository
  unfold Draft.add
  dsimp only
  split
  · rename_i side counts isLabels
    have kind := findingIsOf.kind
    have small := findingIsOf.small
    rw [isLabels] at kind small
    exact ⟨entered.documents, labelsAreOf_mergeLabels side kind entered.labels small⟩
  · refine ⟨fun document member => ?_, entered.labels⟩
    rcases List.mem_append.mp member with fresh | old
    · exact documentIsOf_of_documentOf? findingIsOf (Option.mem_toList.mp fresh)
    · exact entered.documents document old

theorem draftIsOf_foldl
    {measurements : List (Placed Finding)}
    (isOf : DraftIsOf filing draft)
    (each : ∀ measurement ∈ measurements, FindingIsOf filing.family measurement.result) :
    DraftIsOf filing (measurements.foldl (Draft.add filing repositories rowNames) draft) := by
  induction measurements generalizing draft with
  | nil => exact isOf
  | cons measurement rest inductionHypothesis =>
    apply inductionHypothesis
    · exact draftIsOf_add isOf (each measurement List.mem_cons_self)
    · exact fun later member => each later (List.mem_cons_of_mem _ member)

theorem documentIsOf_of_mem_documentsOf
    {measurements : List (Placed Finding)}
    (each : ∀ measurement ∈ measurements, FindingIsOf filing.family measurement.result) :
    ∀ document ∈ documentsOf filing repositories rowNames measurements,
      DocumentIsOf filing document := by
  intro document member
  have isOf : DraftIsOf filing ((measurements.foldl (Draft.add filing repositories rowNames)
      Draft.empty).flush filing repositories) :=
    draftIsOf_flush (draftIsOf_foldl draftIsOf_empty each)
  exact isOf.documents document (List.mem_reverse.mp member)

/-! ### Batches -/

/-- The batch of documents of a filing. -/
def BatchIsOf (filing : Filing) (batch : Batch) : Prop :=
  ∃ documents, batch = Batch.ofDocuments documents ∧
    ∀ document ∈ documents, DocumentIsOf filing document

variable {executor : Executor}

theorem warrants_assembleRows
    (answers : executor.AnswersOnly Response.IsSmall)
    (plan : Plan)
    (family : Family)
    (occasion : Occasion) :
    (assembleRows plan family family.rows occasion).Warrants executor
      (BatchIsOf (occasion.filing family)) := by
  refine Inquiry.Warrants.bind
    (warrants_prepare plan.useLookups occasion.repositories (rowIsOf_of_mem_rows family))
    fun prepared each => ?_
  refine Inquiry.Warrants.bind (warrants_measurements answers occasion.repositories each)
    fun measured measuredIsOf => ?_
  refine Inquiry.Warrants.pure ⟨_, rfl, documentIsOf_of_mem_documentsOf fun placed member => ?_⟩
  have isResult := List.mem_mergeSort.mp member
  rcases List.mem_append.mp isResult with isKnown | isMeasured
  · exact findingIsOf_of_mem_knownOf each placed isKnown
  · exact measuredIsOf placed isMeasured

theorem warrants_check
    (answers : executor.AnswersOnly Response.IsSmall)
    (isReleases : filing.family = .releases)
    (task : Task Release) :
    (task.check filing).inquiry.Warrants executor
      (fun placed => DocumentIsOf filing placed.result) := by
  refine warrants_volley answers ?_
  intro first smallFirst second smallSecond third smallThird fourth smallFourth fifth smallFifth
    sixth _ placed isPlaced
  obtain ⟨readiness, isReadiness, rfl⟩ := Outcome.exists_of_map_eq_ok isPlaced
  exact ⟨rfl, rfl, isReleases, Catalogue.isInt64_readinessOf smallFirst smallSecond smallThird
    smallFourth smallFifth isReadiness⟩

theorem warrants_assembleChecks
    (answers : executor.AnswersOnly Response.IsSmall)
    (plan : Plan)
    (occasion : Occasion) :
    (assembleChecks plan occasion).Warrants executor (BatchIsOf (occasion.filing .releases)) := by
  have checks : (Volley.inquireAll (checksOf (occasion.filing .releases) occasion.repositories
      plan.releases)).Warrants executor (fun checked => ∀ placed ∈ checked,
        DocumentIsOf (occasion.filing .releases) placed.result) := by
    refine Inquiry.Warrants.forEach fun volley isVolley => ?_
    obtain ⟨task, -, rfl⟩ := List.mem_map.mp isVolley
    exact warrants_check answers rfl task
  refine checks.bind fun checked each => ?_
  refine Inquiry.Warrants.pure ⟨_, rfl, fun document member => ?_⟩
  obtain ⟨placed, isPlaced, rfl⟩ := List.mem_map.mp member
  exact each placed (List.mem_mergeSort.mp isPlaced)

/-- Whatever a small-numbered executor answers, an assembly files its documents as it should. -/
theorem warrants_assemble
    (answers : executor.AnswersOnly Response.IsSmall)
    (plan : Plan)
    (family : Family)
    (occasion : Occasion) :
    (assemble plan family occasion).Warrants executor (BatchIsOf (occasion.filing family)) := by
  cases family with
  | releases => exact warrants_assembleChecks answers plan occasion
  | _ => exact warrants_assembleRows answers plan _ occasion

/-- A document that is stored under an id is a document with that id. -/
theorem exists_of_mem_batch
    {batch : Batch}
    {entry : Entry}
    (isOf : BatchIsOf filing batch)
    (stored : entry ∈ batch.documents) :
    ∃ document, DocumentIsOf filing document ∧ document.id = entry.id ∧
      document.body = entry.body := by
  obtain ⟨documents, rfl, each⟩ := isOf
  obtain ⟨document, isDocument, sameId, sameBody⟩ :=
    Batch.document_of_get? (Batch.mem_documents_iff.mp stored)
  exact ⟨document, each document isDocument, sameId, sameBody⟩

/-- Whenever the assembly of a family succeeds, every body in its batch is an object that holds the
id it is stored under, the moment of the run, a repository and a name, and the id is the one of that
name and repository on that day.  The totals of the answers are signed integers of 64 bits, as those
of all answers are that were read from text. -/
theorem stored_documents_carry_identity
    (plan : Plan)
    (family : Family)
    (occasion : Occasion)
    (asked : List Request)
    {batch : Batch}
    (answers : ∀ before request response, executor before request = .ok response →
      response.IsSmall)
    (assembled : ((assemble plan family occasion).run executor asked).2 = .ok batch) :
    ∀ entry ∈ batch.documents, ∃ fields repository name,
      Value.ofText? entry.body = some (.object fields) ∧
      valueUnder? "id" fields = some (.text entry.id) ∧
      valueUnder? "current_date" fields = some (.text occasion.runAt.text) ∧
      valueUnder? "repository" fields = some (.text repository) ∧
      valueUnder? family.nameField fields = some (.text name) ∧
      documentId ⟨family.name, name, .day occasion.date, repository⟩ = entry.id := by
  intro entry stored
  obtain ⟨document, isOf, sameId, sameBody⟩ :=
    exists_of_mem_batch
      (warrants_assemble answers plan family occasion asked batch assembled) stored
  obtain ⟨bucket, currentDate, report, small⟩ := isOf
  obtain ⟨fields, isRead, id, date, repository, name⟩ := Document.body_reads_back small report
  refine ⟨fields, document.origin.repository, document.report.name, ?_, ?_, ?_,
    repository, name, ?_⟩
  · rw [← sameBody, isRead]
  · rw [← sameId, id]
  · rw [date, currentDate]
    rfl
  · rw [← sameId, Document.id, Document.key, Report.family_eq report, bucket]
    rfl

/-- A repository and a release with line feeds, quotes and backslashes in their names. -/
theorem stored_release_carries_identity :
    let occasion : Occasion := ⟨["a\n\"b\\"], ⟨2024, 6, 1, by decide⟩, ⟨1717200000, 0⟩⟩
    let plan : Plan := ⟨true, [⟨"3\n\"0\\", "open"⟩], 1⟩
    let executor : Executor := .steady fun _ =>
      .ok ⟨some 3, [], Ledger.ofList [("issue_assignees", .object [("buckets", .array [])])]⟩
    ∃ batch, ((assemble plan .releases occasion).run executor []).2 = .ok batch ∧
      batch.documents.length = 1 ∧
      ∀ entry ∈ batch.documents, ∃ fields repository name,
        Value.ofText? entry.body = some (.object fields) ∧
        valueUnder? "id" fields = some (.text entry.id) ∧
        valueUnder? "current_date" fields = some (.text occasion.runAt.text) ∧
        valueUnder? "repository" fields = some (.text repository) ∧
        valueUnder? "release_version" fields = some (.text name) ∧
        documentId ⟨Family.releases.name, name, .day occasion.date, repository⟩ = entry.id := by
  intro occasion plan executor
  have answers : ∀ before request response, executor before request = .ok response →
      response.IsSmall := by
    intro before request response isResponse total isTotal
    cases isResponse
    cases isTotal
    decide
  have assembled : ((assemble plan .releases occasion).run executor []).2 =
      .ok (batchOfChecks [⟨0, 0, ⟨(occasion.filing .releases).origin "a\n\"b\\",
        .release ⟨"3\n\"0\\", "open"⟩ ⟨3, 3, 3, 3, 3, ⟨none, []⟩⟩⟩⟩]) := by
    rfl
  refine ⟨_, assembled, ?_,
    stored_documents_carry_identity plan .releases occasion [] answers assembled⟩
  rw [batchOfChecks_singleton]
  rfl

end RepoVitals.Assembly

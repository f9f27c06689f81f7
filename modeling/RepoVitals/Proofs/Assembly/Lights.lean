import RepoVitals.Proofs.Assembly.Provenance
import RepoVitals.Proofs.Batch
import RepoVitals.Proofs.Document
/-!
Traffic lights.

Owns:
- the rows without a lookup, whose measurements are all there is to their batch, and the drafts of
  findings that are not labels;
- what a document with a count says: the count, the limit and the light between them;
- `health_lights_consistent`: every document of the health family says so, whatever the executor
  answers, and however its answers come while several pairs are worked on.
-/

namespace RepoVitals.Assembly

open Catalogue (Extracted Family Light Measure Row Threshold)
open Json (Value)
open Search (Request Response)

/-! ### Rows without a lookup -/

/-- A row that has no table. -/
def bare (row : Row) : PreparedRow := ⟨row, none⟩

section Bare

variable {executor : Executor} {rows : List Row} {useLookups : Bool} {repositories : List String}

/-- Inquiries that are done ask nothing. -/
theorem run_forEach_of_done
    {α β : Type}
    {items : List β}
    {inquiryOf : β → Inquiry α}
    {result : β → α}
    (done : ∀ item ∈ items, inquiryOf item = .done (result item))
    (past : List Request) :
    (Inquiry.forEach items inquiryOf).run executor past = (past, .ok (items.map result)) := by
  induction items with
  | nil => rfl
  | cons item rest inductionHypothesis =>
    have later := inductionHypothesis fun other isLater =>
      done other (List.mem_cons_of_mem _ isLater)
    rw [Inquiry.forEach, done item List.mem_cons_self]
    show (Inquiry.forEach rest inquiryOf >>= fun results => _).run executor past = _
    rw [Inquiry.run_bind, later]
    rfl

/-- Rows without a lookup are prepared without a search. -/
theorem run_prepare_of_noLookup
    (noLookup : ∀ row ∈ rows, row.lookup? = none)
    (past : List Request) :
    (prepare useLookups repositories rows).run executor past = (past, .ok (rows.map bare)) := by
  refine run_forEach_of_done (fun row isRow => ?_) past
  have unused : (if useLookups then row.lookup? else none) = none := by
    rw [noLookup row isRow, ite_self]
  rw [unused]
  rfl

theorem knownOf_bare : knownOf repositories (rows.map bare) = [] := by
  refine List.filterMap_eq_nil_iff.mpr fun task isTask => ?_
  obtain ⟨row, -, isBare⟩ := List.mem_map.mp (mem_tasksOf isTask).2
  rw [Task.known?, ← isBare]
  rfl

/-- The volley of a pair, with its result at the place of the pair. -/
def pairVolley (task : Task Row) : Volley (Placed Finding) :=
  (findingVolley task.subject task.repository).map task.placed

theorem searches_pairVolley (task : Task Row) :
    (pairVolley task).searches = ownSearches task.subject task.repository :=
  searches_findingVolley task.subject task.repository

theorem measurementsOf_bare :
    measurementsOf repositories (rows.map bare) = (tasksOf repositories rows).map pairVolley := by
  have allOpen : (tasksOf repositories (rows.map bare)).filter (fun task => task.known?.isNone) =
      tasksOf repositories (rows.map bare) := by
    refine List.filter_eq_self.mpr fun task isTask => ?_
    obtain ⟨row, -, isBare⟩ := List.mem_map.mp (mem_tasksOf isTask).2
    rw [Task.known?, ← isBare]
    rfl
  rw [measurementsOf, allOpen, tasksOf_map, List.map_map]
  rfl

/-- The assembly of rows without a lookup measures all pairs, one after the other. -/
theorem measured_of_run
    (noLookup : ∀ row ∈ rows, row.lookup? = none)
    {plan : Plan}
    {family : Family}
    {occasion : Occasion}
    {past asked : List Request}
    {batch : Batch}
    (course : (assembleRows plan family rows occasion).run executor past = (asked, .ok batch)) :
    ∃ measured,
      (Volley.inquireAll ((tasksOf occasion.repositories rows).map pairVolley)).run executor past =
        (asked, .ok measured) ∧
      batch = batchOfFindings (occasion.filing family) occasion.repositories (rows.map Row.name)
        measured := by
  rw [assembleRows, Inquiry.run_bind, run_prepare_of_noLookup noLookup] at course
  dsimp only at course
  rw [Inquiry.run_bind, measurementsOf_bare, knownOf_bare] at course
  cases here : (Volley.inquireAll ((tasksOf occasion.repositories rows).map pairVolley)).run
      executor past with
  | mk askedThen outcome =>
    rw [here] at course
    cases outcome with
    | ok measured =>
      cases course
      exact ⟨measured, rfl, rfl⟩
    | error failure => cases course

/-- Among these events an assembly of rows that works on several pairs at a time comes to this
batch.  Its lookups have been answered before, by whatever executor. -/
def CompletesInFlight (plan : Plan) (family : Family) (rows : List Row) (occasion : Occasion)
    (events : List FanoutEvent) (batch : Batch) : Prop :=
  ∃ executor past prepared after measured,
    ((prepare plan.useLookups occasion.repositories rows).run executor past).2 = .ok prepared ∧
      (plan.measurements occasion.repositories prepared).exec events = some after ∧
      after.outcome? = some (.ok measured) ∧
      batch = batchOfFindings (occasion.filing family) occasion.repositories (rows.map Row.name)
        (knownOf occasion.repositories prepared ++ measured)

/-- The same where several pairs are worked on. -/
theorem measured_of_completesInFlight
    (noLookup : ∀ row ∈ rows, row.lookup? = none)
    {plan : Plan}
    {family : Family}
    {occasion : Occasion}
    {events : List FanoutEvent}
    {batch : Batch}
    (completes : CompletesInFlight plan family rows occasion events batch) :
    ∃ after : Fanout (Placed Finding),
      (Fanout.new plan.concurrency ((tasksOf occasion.repositories rows).map pairVolley)).exec
        events = some after ∧
      batch = batchOfFindings (occasion.filing family) occasion.repositories (rows.map Row.name)
        after.completed := by
  obtain ⟨executor, past, prepared, after, measured, isPrepared, course, isOver, rfl⟩ := completes
  rw [run_prepare_of_noLookup noLookup] at isPrepared
  cases isPrepared
  rw [Plan.measurements, measurementsOf_bare] at course
  have isMeasured : after.completed = measured := by
    unfold Fanout.outcome? at isOver
    split at isOver
    · cases isOver
    · split at isOver <;> cases isOver
      rfl
  exact ⟨after, course, by rw [knownOf_bare, isMeasured, List.nil_append]⟩

end Bare

/-- The positions of a pair are where its repository and its subject stand. -/
theorem getElem?_of_mem_tasksOf
    {α : Type}
    {repositories : List String}
    {subjects : List α}
    {task : Task α}
    (isTask : task ∈ tasksOf repositories subjects) :
    repositories[task.repositoryIndex]? = some task.repository ∧
      subjects[task.subjectIndex]? = some task.subject := by
  obtain ⟨repository, isRepository, isTask⟩ := List.mem_flatMap.mp isTask
  obtain ⟨subject, isSubject, rfl⟩ := List.mem_map.mp isTask
  exact ⟨List.mem_zipIdx_iff_getElem?.mp isRepository, List.mem_zipIdx_iff_getElem?.mp isSubject⟩

/-- Every document in a batch of findings of pairs is that of one of them. -/
theorem exists_finding_of_mem_batch
    {filing : Filing}
    {repositories : List String}
    {rows : List Row}
    {measured : List (Placed Finding)}
    {holds : Task Row → Finding → Prop}
    (each : ∀ placed ∈ measured, ∃ task ∈ tasksOf repositories rows, ∃ finding,
      holds task finding ∧ task.placed finding = placed)
    (plain : ∀ task ∈ tasksOf repositories rows, ∀ finding, holds task finding →
      ∀ side counts, finding.extracted ≠ .labels side counts)
    {entry : Entry}
    (stored : entry ∈
      (batchOfFindings filing repositories (rows.map Row.name) measured).documents) :
    ∃ task ∈ tasksOf repositories rows, ∃ finding document, holds task finding ∧
      documentOf? filing task.repository task.subject.name finding = some document ∧
        document.body = entry.body := by
  obtain ⟨document, isDocument, -, sameBody⟩ :=
    Batch.document_of_get? (Batch.mem_documents_iff.mp stored)
  have found : ∀ placed ∈ inOrder measured, ∃ task ∈ tasksOf repositories rows, ∃ finding,
      holds task finding ∧ task.placed finding = placed :=
    fun placed member => each placed (List.mem_mergeSort.mp member)
  have noLabels : ∀ placed ∈ inOrder measured, ∀ side counts,
      placed.result.extracted ≠ .labels side counts := by
    intro placed member
    obtain ⟨task, isTask, finding, isFound, rfl⟩ := found placed member
    exact plain task isTask finding isFound
  rw [Draft.documentsOf_of_noLabels noLabels] at isDocument
  obtain ⟨placed, isPlaced, isSingle⟩ := List.mem_filterMap.mp isDocument
  obtain ⟨task, isTask, finding, isFound, rfl⟩ := found placed isPlaced
  obtain ⟨isRepository, isRow⟩ := getElem?_of_mem_tasksOf isTask
  refine ⟨task, isTask, finding, document, isFound, ?_, sameBody⟩
  have repositoryThere : repositories.getD task.repositoryIndex "" = task.repository := by
    rw [List.getD_eq_getElem?_getD, isRepository, Option.getD_some]
  have nameThere : (rows.map Row.name).getD task.subjectIndex "" = task.subject.name := by
    rw [List.getD_eq_getElem?_getD, List.getElem?_map, isRow, Option.map_some, Option.getD_some]
  rwa [Draft.single?, Task.placed, repositoryThere, nameThere] at isSingle

/-! ### Documents with a light -/

/-- A count, with a note or without one. -/
def countWith (count : Int) : Option String → Extracted
  | none => .count count
  | some note => .status count note

/-- What a document of a row says about a repository, by the answers to the row's searches. -/
structure Lit (row : Row) (repository : String) (responses : List Response) (count : Int)
    (limit : Option Int) (fields : List (String × Value)) : Prop where
  ofRow : valueUnder? "metric_name" fields = some (.text row.name)
  ofRepository : valueUnder? "repository" fields = some (.text repository)
  hasCount : valueUnder? "metric_count" fields = some (.integer count)
  /-- The count and the note are what the row reads from the answer to its first search. -/
  counted : ∃ first note, responses.head? = some first ∧
    row.extract first = .ok (countWith count note) ∧
      valueUnder? "metric_string_value" fields = note.map .text
  hasLimit : valueUnder? "threshold_count" fields = limit.map .integer
  /-- The limit is the row's own, or derived from the answer to its second search. -/
  drawn : Draws responses row.threshold limit
  /-- There are a limit and a light, or neither of them, as the row has a threshold or not. -/
  limitIffThreshold : (valueUnder? "threshold_count" fields).isSome = row.threshold.isSome
  lightIffThreshold : (valueUnder? "threshold_status" fields).isSome = row.threshold.isSome
  red : valueUnder? "threshold_status" fields = some (.text "red") ↔
    ∃ threshold, limit = some threshold ∧ threshold < count
  green : valueUnder? "threshold_status" fields = some (.text "green") ↔
    ∃ threshold, limit = some threshold ∧ count ≤ threshold

/-- A light is red over the limit, and green at it and under it. -/
theorem light_iff (count : Int) (limit : Option Int) :
    (limit.map (fun threshold => Value.text (Light.of count threshold).name) =
        some (.text "red") ↔ ∃ threshold, limit = some threshold ∧ threshold < count) ∧
      (limit.map (fun threshold => Value.text (Light.of count threshold).name) =
        some (.text "green") ↔ ∃ threshold, limit = some threshold ∧ count ≤ threshold) := by
  cases limit with
  | none => simp
  | some threshold =>
    unfold Light.of
    by_cases exceeded : threshold < count
    · simp [exceeded, Light.name]
    · simp [exceeded, Light.name, Int.not_lt.mp exceeded]

/-- A document with a count says what was found. -/
theorem lit_of_found
    {row : Row}
    {responses : List Response}
    {count : Int}
    {limit : Option Int}
    (note : Option String)
    (origin : Origin)
    (family : Family)
    (found : FoundIn row responses ⟨countWith count note, limit⟩) :
    Lit row origin.repository responses count limit
      (Document.fields ⟨origin, .metric family row.name count note limit⟩) := by
  obtain ⟨⟨first, isFirst, isExtracted⟩, drawn⟩ := found
  obtain ⟨isName, isRepository, isCount, isNote, isLimit, isLight⟩ :
      let fields := Document.fields ⟨origin, .metric family row.name count note limit⟩
      valueUnder? "metric_name" fields = some (.text row.name) ∧
        valueUnder? "repository" fields = some (.text origin.repository) ∧
        valueUnder? "metric_count" fields = some (.integer count) ∧
        valueUnder? "metric_string_value" fields = note.map .text ∧
        valueUnder? "threshold_count" fields = limit.map .integer ∧
        valueUnder? "threshold_status" fields =
          limit.map (fun threshold => .text (Light.of count threshold).name) := by
    cases note <;> cases limit <;>
      simp [Document.fields, Report.fields, Report.optionalField, valueUnder?]
  have asThreshold := isSome_of_draws drawn
  obtain ⟨red, green⟩ := light_iff count limit
  refine ⟨isName, isRepository, isCount, ⟨first, note, isFirst, isExtracted, isNote⟩,
    isLimit, drawn,
    ?_, ?_, ?_, ?_⟩
  · rw [isLimit, Option.isSome_map, asThreshold]
  · rw [isLight, Option.isSome_map, asThreshold]
  · rw [isLight, red]
  · rw [isLight, green]

theorem exists_lit
    {filing : Filing}
    {row : Row}
    {repository : String}
    {responses : List Response}
    {finding : Finding}
    {document : Document}
    (found : FoundIn row responses finding)
    (notCoverage : row.measure ≠ .coverage)
    (isDocument : documentOf? filing repository row.name finding = some document) :
    ∃ count limit, Lit row repository responses count limit document.fields := by
  obtain ⟨extracted, limit⟩ := finding
  unfold documentOf? at isDocument
  cases extracted with
  | labels side counts => cases isDocument
  | coverage snapshot =>
    obtain ⟨first, -, isExtracted⟩ := found.extracted
    exact absurd (Measure.eq_coverage_of_yields (Measure.yields_of_extract isExtracted)) notCoverage
  | count count =>
    cases isDocument
    exact ⟨count, limit, lit_of_found none (filing.origin repository) filing.family found⟩
  | status count note =>
    cases isDocument
    exact ⟨count, limit, lit_of_found (some note) (filing.origin repository) filing.family found⟩

/-! ### The audit -/

/-- What the document of the audit says, by the answer to its search: whether anything was found. -/
structure Audited (responses : List Response) (total : Int) (fields : List (String × Value)) :
    Prop where
  ofTotal : ∃ first, responses.head? = some first ∧ first.matchCount = .ok total
  found : 0 < total → valueUnder? "metric_count" fields = some (.integer 1) ∧
    valueUnder? "metric_string_value" fields = some (.text "non-compliant") ∧
      valueUnder? "threshold_status" fields = some (.text "red")
  notFound : total ≤ 0 → valueUnder? "metric_count" fields = some (.integer 0) ∧
    valueUnder? "metric_string_value" fields = some (.text "compliant") ∧
      valueUnder? "threshold_status" fields = some (.text "green")

/-- The row of the audit is the only one with its name. -/
theorem audit_of_name :
    ∀ row ∈ Catalogue.healthRows, row.name = "GitHub Audit" →
      row.measure = .audit ∧ row.threshold = some (.fixed 0) := by
  have otherNames : ∀ row ∈ Catalogue.healthRows.tail, row.name ≠ "GitHub Audit" := by decide
  intro row isRow isName
  rcases List.mem_cons.mp isRow with rfl | isOther
  · exact ⟨rfl, rfl⟩
  · exact absurd isName (otherNames row isOther)

theorem exists_audited
    {row : Row}
    {repository : String}
    {responses : List Response}
    {count : Int}
    {limit : Option Int}
    {fields : List (String × Value)}
    (lit : Lit row repository responses count limit fields)
    (isAudit : row.measure = .audit)
    (isFixed : row.threshold = some (.fixed 0)) :
    ∃ total, Audited responses total fields := by
  obtain ⟨first, note, isFirst, isExtracted, isNote⟩ := lit.counted
  have isLimit : limit = some 0 := by
    have drawn := lit.drawn
    rwa [isFixed] at drawn
  have red := lit.red
  have green := lit.green
  rw [isLimit] at red green
  rw [Row.extract, isAudit] at isExtracted
  obtain ⟨total, isTotal, isExtracted⟩ := Outcome.exists_of_bind_eq_ok isExtracted
  refine ⟨total, ⟨first, isFirst, isTotal⟩, fun some => ?_, fun none => ?_⟩
  · rw [if_pos some] at isExtracted
    cases note with
    | none => cases isExtracted
    | some content =>
      cases isExtracted
      exact ⟨lit.hasCount, isNote, red.mpr ⟨0, rfl, by decide⟩⟩
  · rw [if_neg (Int.not_lt.mpr none)] at isExtracted
    cases note with
    | none => cases isExtracted
    | some content =>
      cases isExtracted
      exact ⟨lit.hasCount, isNote, green.mpr ⟨0, rfl, by decide⟩⟩

/-! ### The health family -/

theorem scalar_of_mem_healthRows :
    ∀ row ∈ Catalogue.healthRows, row.lookup? = none ∧ row.measure ≠ .coverage := by
  have scalar : ∀ row ∈ Catalogue.healthRows,
      row.lookup?.isNone = true ∧ row.measure ≠ .coverage := by
    decide
  intro row isRow
  obtain ⟨noLookup, notCoverage⟩ := scalar row isRow
  exact ⟨Option.isNone_iff_eq_none.mp noLookup, notCoverage⟩

/-- Only a row with a lookup finds labels. -/
theorem not_labels_of_foundIn
    {row : Row}
    {responses : List Response}
    {finding : Finding}
    (noLookup : row.lookup? = none)
    (found : FoundIn row responses finding) :
    ∀ side counts, finding.extracted ≠ .labels side counts := by
  intro side counts isLabels
  obtain ⟨first, -, isExtracted⟩ := found.extracted
  rw [isLabels] at isExtracted
  obtain ⟨name, field, measure⟩ :=
    Measure.exists_labels_of_yields (Measure.yields_of_extract isExtracted)
  simp [Row.lookup?, measure] at noLookup

/-- The body is a document of the row about the repository, with a light that suits its count. -/
def ShowsLight (row : Row) (repository : String) (responses : List Response) (body : String) :
    Prop :=
  ∃ count limit fields, body = (Value.object fields).toText ∧
    Lit row repository responses count limit fields ∧
    (row.name = "GitHub Audit" → ∃ total, Audited responses total fields)

/-- Where every finding of the health family was read from some answers, so is every document. -/
theorem exists_showsLight_of_mem_batch
    {filing : Filing}
    {repositories : List String}
    {measured : List (Placed Finding)}
    {heard : Task Row → List Response → Prop}
    (each : ∀ placed ∈ measured, ∃ task ∈ tasksOf repositories Catalogue.healthRows,
      ∃ responses, heard task responses ∧ (pairVolley task).Reads responses placed)
    {entry : Entry}
    (stored : entry ∈ (batchOfFindings filing repositories (Catalogue.healthRows.map Row.name)
      measured).documents) :
    ∃ task ∈ tasksOf repositories Catalogue.healthRows, ∃ responses,
      heard task responses ∧ ShowsLight task.subject task.repository responses entry.body := by
  have found : ∀ placed ∈ measured, ∃ task ∈ tasksOf repositories Catalogue.healthRows,
      ∃ finding, (∃ responses, heard task responses ∧ FoundIn task.subject responses finding) ∧
        task.placed finding = placed := by
    intro placed isPlaced
    obtain ⟨task, isTask, responses, isHeard, reads⟩ := each placed isPlaced
    obtain ⟨finding, reads, isPlaced⟩ := Volley.exists_reads_of_map reads
    exact ⟨task, isTask, finding, ⟨responses, isHeard, foundIn_of_reads reads⟩, isPlaced⟩
  have plain : ∀ task ∈ tasksOf repositories Catalogue.healthRows, ∀ finding,
      (∃ responses, heard task responses ∧ FoundIn task.subject responses finding) →
        ∀ side counts, finding.extracted ≠ .labels side counts := by
    rintro task isTask finding ⟨responses, -, isFound⟩
    obtain ⟨noLookup, -⟩ := scalar_of_mem_healthRows task.subject (mem_tasksOf isTask).2
    exact not_labels_of_foundIn noLookup isFound
  obtain ⟨task, isTask, finding, document, ⟨responses, isHeard, isFound⟩, isDocument, sameBody⟩ :=
    exists_finding_of_mem_batch found plain stored
  have isRow := (mem_tasksOf isTask).2
  obtain ⟨count, limit, lit⟩ :=
    exists_lit isFound (scalar_of_mem_healthRows task.subject isRow).2 isDocument
  refine ⟨task, isTask, responses, isHeard, count, limit, document.fields, sameBody.symm, lit,
    fun isAudit => ?_⟩
  obtain ⟨isMeasure, isFixed⟩ := audit_of_name task.subject isRow isAudit
  exact exists_audited lit isMeasure isFixed

/-- The traffic lights of the health family are consistent, whatever the executor answers, and
however its answers come while several pairs are worked on.  Every document of a batch is that of a
row and a repository, by the answers to their own searches. -/
theorem health_lights_consistent (plan : Plan) (occasion : Occasion) :
    (∀ executor past asked batch,
      (assemble plan .health occasion).run executor past = (asked, .ok batch) →
      ∀ entry ∈ batch.documents, ∃ row ∈ Catalogue.healthRows,
        ∃ repository ∈ occasion.repositories, ∃ responses,
          HeardWithin executor past asked (ownSearches row repository) responses ∧
            ShowsLight row repository responses entry.body) ∧
    ∀ events batch, CompletesInFlight plan .health Catalogue.healthRows occasion events batch →
      ∀ entry ∈ batch.documents, ∃ position task responses,
        (tasksOf occasion.repositories Catalogue.healthRows)[position]? = some task ∧
          HeardAmong events position (ownSearches task.subject task.repository) responses ∧
            ShowsLight task.subject task.repository responses entry.body := by
  have noLookup : ∀ row ∈ Catalogue.healthRows, row.lookup? = none :=
    fun row isRow => (scalar_of_mem_healthRows row isRow).1
  constructor
  · intro executor past asked batch course entry stored
    obtain ⟨measured, areMeasured, rfl⟩ := measured_of_run noLookup course
    have each : ∀ placed ∈ measured,
        ∃ task ∈ tasksOf occasion.repositories Catalogue.healthRows, ∃ responses,
          HeardWithin executor past asked (ownSearches task.subject task.repository) responses ∧
            (pairVolley task).Reads responses placed := by
      intro placed isPlaced
      obtain ⟨volley, isVolley, responses, heard, reads⟩ :=
        Volley.heardWithin_of_inquireAll areMeasured placed isPlaced
      obtain ⟨task, isTask, rfl⟩ := List.mem_map.mp isVolley
      rw [searches_pairVolley] at heard
      exact ⟨task, isTask, responses, heard, reads⟩
    obtain ⟨task, isTask, responses, heard, shows⟩ := exists_showsLight_of_mem_batch each stored
    obtain ⟨isRepository, isRow⟩ := mem_tasksOf isTask
    exact ⟨task.subject, isRow, task.repository, isRepository, responses, heard, shows⟩
  · intro events batch completes entry stored
    obtain ⟨after, course, rfl⟩ := measured_of_completesInFlight noLookup completes
    have each : ∀ placed ∈ after.completed,
        ∃ task ∈ tasksOf occasion.repositories Catalogue.healthRows, ∃ responses,
          (∃ position, (tasksOf occasion.repositories Catalogue.healthRows)[position]? = some task ∧
            HeardAmong events position (ownSearches task.subject task.repository) responses) ∧
            (pairVolley task).Reads responses placed := by
      intro placed isPlaced
      obtain ⟨position, volley, responses, found, heard, reads⟩ :=
        Fanout.allRead_of_exec course placed isPlaced
      rw [List.getElem?_map] at found
      obtain ⟨task, isTask, rfl⟩ := Option.map_eq_some_iff.mp found
      rw [searches_pairVolley] at heard
      exact ⟨task, List.mem_of_getElem? isTask, responses, ⟨position, isTask, heard⟩, reads⟩
    obtain ⟨task, -, responses, ⟨position, isTask, heard⟩, shows⟩ :=
      exists_showsLight_of_mem_batch each stored
    exact ⟨position, task, responses, isTask, heard, shows⟩

/-- One repository on one day. -/
def loneOccasion : Occasion := ⟨["alpha"], ⟨2024, 6, 1, by decide⟩, ⟨1717210800, 0⟩⟩

/-- An answer that every search of the health family can be read from. -/
def plainAnswer : Response :=
  let figure : Value := .object [("value", .integer 5)]
  ⟨some 3, [], Ledger.ofList
    [(Catalogue.averageName, figure), (Catalogue.contributorsName, figure)]⟩

/-- Each pair is sent when the one before is done, and all its searches have the same answer. -/
def plainEvents : List FanoutEvent :=
  (tasksOf loneOccasion.repositories Catalogue.healthRows).flatMap (fun task =>
    .send :: (List.range (pairVolley task).searches.length).map (fun search =>
      .answer task.subjectIndex search (.ok plainAnswer)))

/-- What every pair finds in that answer. -/
def plainFindings : List (Placed Finding) :=
  (tasksOf loneOccasion.repositories Catalogue.healthRows).filterMap (fun task =>
    ((pairVolley task).outcome?
      ((pairVolley task).searches.map (fun _ => some plainAnswer))).bind Except.toOption)

/-- The documents of these findings. -/
def plainDocuments : List Document :=
  documentsOf (loneOccasion.filing .health) loneOccasion.repositories
    (Catalogue.healthRows.map Row.name) plainFindings

/-- The batch of these findings. -/
def plainBatch : Batch :=
  batchOfFindings (loneOccasion.filing .health) loneOccasion.repositories
    (Catalogue.healthRows.map Row.name) plainFindings

theorem plainBatch_eq : plainBatch = Batch.ofDocuments plainDocuments := by
  have inPlace : plainFindings.Pairwise Placed.Precedes := by
    unfold Placed.Precedes
    decide +kernel
  rw [plainBatch, batchOfFindings, inOrder_of_perm (.refl _) inPlace, plainDocuments]

/-- The document of an audit that has found something. -/
def auditDocument : Document :=
  ⟨(loneOccasion.filing .health).origin "alpha",
    .metric .health "GitHub Audit" 1 (some "non-compliant") (some 0)⟩

/-- It is stored, because no later document has its id. -/
theorem stored_auditDocument : auditDocument.entry ∈ plainBatch.documents := by
  have isFirst : plainDocuments = auditDocument :: plainDocuments.tail := by decide +kernel
  have isAudit : auditDocument.id = "ec8f7d6c-1998-81bd-8a14-6221f03e89b5" := by decide +kernel
  have isLast : ∀ later ∈ plainDocuments.tail, later.id ≠ auditDocument.id := by
    rw [isAudit]
    decide +kernel
  rw [plainBatch_eq, isFirst]
  exact Batch.mem_documents_of_last isLast

theorem health_lights_consistent_for_one_repository :
    (auditDocument.entry ∈ plainBatch.documents ∧
      valueUnder? "threshold_status" auditDocument.fields = some (.text "red")) ∧
    (∃ asked,
      (assemble ⟨true, [], 1⟩ .health loneOccasion).run (.steady fun _ => .ok plainAnswer) [] =
        (asked, .ok plainBatch) ∧
      ∀ entry ∈ plainBatch.documents, ∃ row ∈ Catalogue.healthRows,
        ∃ repository ∈ loneOccasion.repositories, ∃ responses,
          HeardWithin (.steady fun _ => .ok plainAnswer) [] asked (ownSearches row repository)
            responses ∧ ShowsLight row repository responses entry.body) ∧
    CompletesInFlight ⟨true, [], 1⟩ .health Catalogue.healthRows loneOccasion
        plainEvents plainBatch ∧
      ∀ entry ∈ plainBatch.documents, ∃ position task responses,
        (tasksOf loneOccasion.repositories Catalogue.healthRows)[position]? = some task ∧
          HeardAmong plainEvents position (ownSearches task.subject task.repository) responses ∧
            ShowsLight task.subject task.repository responses entry.body := by
  obtain ⟨sequential, inFlight⟩ := health_lights_consistent ⟨true, [], 1⟩ loneOccasion
  obtain ⟨asked, assembled⟩ : ∃ asked,
      (assemble ⟨true, [], 1⟩ .health loneOccasion).run (.steady fun _ => .ok plainAnswer) [] =
        (asked, .ok plainBatch) :=
    ⟨_, rfl⟩
  refine ⟨⟨stored_auditDocument, rfl⟩,
    ⟨asked, assembled, sequential _ [] asked plainBatch assembled⟩, ?_⟩
  have isOver : ((Plan.measurements ⟨true, [], 1⟩ loneOccasion.repositories
      (Catalogue.healthRows.map bare)).exec plainEvents).any (fun after =>
        after.failure.isNone && after.waiting.isEmpty && after.underWay.isEmpty &&
          after.completed = plainFindings) = true := by
    decide +kernel
  obtain ⟨after, course, isOver⟩ := (Option.any_eq_true _ _).mp isOver
  have isMeasured : after.outcome? = some (.ok plainFindings) := by
    simp only [Bool.and_eq_true, decide_eq_true_eq, Option.isNone_iff_eq_none] at isOver
    obtain ⟨⟨⟨unfailed, noneWaits⟩, noneFlies⟩, areFound⟩ := isOver
    rw [Fanout.outcome?, unfailed, ← areFound]
    exact if_pos ⟨noneWaits, noneFlies⟩
  have completes : CompletesInFlight ⟨true, [], 1⟩ .health Catalogue.healthRows loneOccasion
      plainEvents plainBatch :=
    ⟨.steady fun _ => .ok plainAnswer, [], _, after, plainFindings, rfl, course, isMeasured, rfl⟩
  exact ⟨completes, inFlight _ _ completes⟩

end RepoVitals.Assembly

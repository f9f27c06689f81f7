import RepoVitals.Proofs.Assembly.Rows
import RepoVitals.Proofs.Assembly.Steady
import RepoVitals.Proofs.Search.Figures
/-!
Findings told by answers.

Owns:
- the answers from which an inquiry or a volley has its result;
- findings, told by the answers that they were read from: the count by the first one, and a limit
  that is derived by the second one;
- `findingBy`: what a row finds for a repository where every search has one answer;
- `resultBy_assembleRows`: where the assembly of rows succeeds, its batch is that of these findings;
- `tells_of_assembled`, the converse of `succeeds_assembleRows`: the findings of all rows were told;
- `documentsBy`: the documents of any family as the answers tell them, repository by repository, and
  `assembled_iff`: when the assembly succeeds, and with which batch.
-/

namespace RepoVitals.Assembly

open Catalogue (Family Readiness Release Row Threshold)
open Search (Request Response)

variable {α β : Type} {answer : Request → Outcome Response}

/-! ### Results -/

theorem Inquiry.succeeds_steady_iff {inquiry : Inquiry α} {property : α → Prop} :
    inquiry.Succeeds (.steady answer) property ↔
      ∃ result, inquiry.resultBy answer = .ok result ∧ property result := by
  simp only [Succeeds, run_steady]
  exact ⟨fun success => success [], fun success _ => success⟩

theorem Inquiry.exists_result_of_forEach
    {items : List β}
    {inquiryOf : β → Inquiry α}
    {results : List α}
    {item : β}
    (course : (forEach items inquiryOf).resultBy answer = .ok results)
    (member : item ∈ items) :
    ∃ result ∈ results, (inquiryOf item).resultBy answer = .ok result := by
  have all := resultBy_forEach_eq_ok_iff.mp course
  induction all with
  | nil => cases member
  | cons here later inductionHypothesis =>
    rcases List.mem_cons.mp member with rfl | member
    · exact ⟨_, List.mem_cons_self, here⟩
    · obtain ⟨result, isResult, isHere⟩ :=
        inductionHypothesis (resultBy_forEach_eq_ok_iff.mpr later) member
      exact ⟨result, List.mem_cons_of_mem _ isResult, isHere⟩

theorem eq_ok_of_mapError_eq_ok
    {outcome : Outcome α}
    {change : Failure → Failure}
    {result : α}
    (isOk : outcome.mapError change = .ok result) :
    outcome = .ok result := by
  cases outcome with
  | ok found => exact isOk
  | error failure => cases isOk

/-- Searches that come to a result were all answered, and the result was read off their answers. -/
theorem Inquiry.exists_responses
    {searches : List Request}
    {reading : Reading α searches.length}
    {result : α}
    (isResult : (ofSearches searches reading).resultBy answer = .ok result) :
    ∃ responses,
      List.Forall₂ (fun request response => answer request = .ok response) searches responses ∧
        reading.outcome? _ (responses.map some) = some (.ok result) := by
  induction searches with
  | nil => exact ⟨[], .nil, congrArg some ((resultBy_ofOutcome reading).symm.trans isResult)⟩
  | cons search rest inductionHypothesis =>
    rw [ofSearches, resultBy_bind, resultBy_search] at isResult
    obtain ⟨response, isResponse, isResult⟩ := Outcome.exists_of_bind_eq_ok isResult
    obtain ⟨responses, areResponses, read⟩ := inductionHypothesis isResult
    exact ⟨response :: responses, .cons isResponse areResponses, read⟩

/-- The result is what the volley makes of these answers to its searches. -/
def Volley.Reads (volley : Volley α) (responses : List Response) (result : α) : Prop :=
  volley.reading.outcome? _ (responses.map some) = some (.ok result)

theorem Volley.exists_responses
    {volley : Volley α}
    {result : α}
    (isResult : volley.resultBy answer = .ok result) :
    ∃ responses,
      List.Forall₂ (fun request response => answer request = .ok response)
        volley.searches responses ∧
        volley.Reads responses result := by
  rw [resultBy, inquiry, Inquiry.resultBy_within] at isResult
  exact Inquiry.exists_responses (eq_ok_of_mapError_eq_ok isResult)

/-! ### Findings by the answers to their searches -/

/-- The search of a row for a repository, and behind it the second search of its threshold, if the
threshold has one. -/
def ownSearches (row : Row) (repository : String) : List Request :=
  row.request repository ::
    ((row.threshold.bind (Threshold.search? repository)).map Prod.fst).toList

theorem searches_findingVolley (row : Row) (repository : String) :
    (findingVolley row repository).searches = ownSearches row repository := by
  unfold findingVolley ownSearches
  rcases row.threshold with _ | value | ⟨index, conditions, percent⟩ <;> rfl

/-- The limit that a threshold sets, by the answers to the searches of its row. -/
def Draws (responses : List Response) : Option Threshold → Option Int → Prop
  | none, limit => limit = none
  | some (.fixed value), limit => limit = some value
  | some (.share _ _ percent), limit =>
    ∃ second share, responses[1]? = some second ∧
      Catalogue.shareOf percent second = .ok share ∧ limit = some share

/-- A row's finding, by the answers to its searches. -/
structure FoundIn (row : Row) (responses : List Response) (finding : Finding) : Prop where
  extracted : ∃ first, responses.head? = some first ∧ row.extract first = .ok finding.extracted
  limit : Draws responses row.threshold finding.threshold

theorem foundIn_of_reads
    {row : Row}
    {repository : String}
    {responses : List Response}
    {finding : Finding}
    (reads : (findingVolley row repository).Reads responses finding) :
    FoundIn row responses finding := by
  have both : (∃ first, responses.head? = some first ∧
      row.extract first = .ok finding.extracted) ∧
      Draws responses row.threshold finding.threshold := by
    unfold Volley.Reads findingVolley at reads
    generalize row.threshold = threshold at reads ⊢
    rcases threshold with _ | value | ⟨index, conditions, percent⟩
    · obtain _ | ⟨first, rest⟩ := responses
      · cases reads
      obtain ⟨extracted, isExtracted, rfl⟩ := Outcome.exists_of_map_eq_ok (Option.some.inj reads)
      exact ⟨⟨first, rfl, isExtracted⟩, rfl⟩
    · obtain _ | ⟨first, rest⟩ := responses
      · cases reads
      obtain ⟨extracted, isExtracted, rfl⟩ := Outcome.exists_of_map_eq_ok (Option.some.inj reads)
      exact ⟨⟨first, rfl, isExtracted⟩, rfl⟩
    · obtain _ | ⟨first, _ | ⟨second, rest⟩⟩ := responses
      · cases reads
      · cases reads
      obtain ⟨extracted, isExtracted, isFinding⟩ :=
        Outcome.exists_of_bind_eq_ok (Option.some.inj reads)
      obtain ⟨share, isShare, isFinding⟩ := Outcome.exists_of_bind_eq_ok isFinding
      cases isFinding
      exact ⟨⟨first, rfl, isExtracted⟩, second, share, rfl, isShare, rfl⟩
  exact ⟨both.1, both.2⟩

theorem isSome_of_draws
    {responses : List Response}
    {threshold : Option Threshold}
    {limit : Option Int}
    (draws : Draws responses threshold limit) :
    limit.isSome = threshold.isSome := by
  rcases threshold with _ | value | ⟨index, conditions, percent⟩
  · rw [show limit = none from draws]
    rfl
  · rw [show limit = some value from draws]
    rfl
  · obtain ⟨second, share, -, -, rfl⟩ := draws
    rfl

/-- A finding was extracted from the answer to the row's own search, and its limit comes from the
threshold of the row. -/
theorem exists_extract_of_finding
    {row : Row}
    {repository : String}
    {finding : Finding}
    (isFinding : (findingVolley row repository).resultBy answer = .ok finding) :
    ∃ response, answer (row.request repository) = .ok response ∧
      row.extract response = .ok finding.extracted ∧
        (row.threshold = none → finding.threshold = none) := by
  obtain ⟨responses, areResponses, reads⟩ := Volley.exists_responses isFinding
  obtain ⟨⟨first, isFirst, isExtracted⟩, drawn⟩ := foundIn_of_reads reads
  rw [searches_findingVolley] at areResponses
  obtain _ | ⟨isResponse, -⟩ := areResponses
  cases isFirst
  refine ⟨first, isResponse, isExtracted, fun noThreshold => ?_⟩
  rwa [noThreshold] at drawn

/-! ### Findings -/

/-- What a row finds for a repository where every search has one answer: what its lookup lists, if
it has one that is used, and otherwise what the pair's own searches come to. -/
def findingBy (answer : Request → Outcome Response) (useLookups : Bool)
    (repositories : List String) (repository : String) (row : Row) : Finding :=
  match if useLookups then row.lookup? else none with
  | none => ((findingVolley row repository).resultBy answer).toOption.getD ⟨.count 0, none⟩
  | some lookup =>
    let table := ((lookUp row lookup repositories).resultBy answer).toOption.getD Ledger.empty
    ⟨.labels lookup.side ((table.get? repository).getD Ledger.empty), none⟩

variable {useLookups : Bool} {repositories : List String} {rows : List Row} {row : Row}

theorem tells_of_lookUp
    {lookup : Catalogue.Lookup}
    {table : LabelTable}
    (used : (if useLookups then row.lookup? else none) = some lookup)
    (isTable : (lookUp row lookup repositories).resultBy answer = .ok table) :
    Tells (.steady answer) useLookups repositories
      (findingBy answer useLookups repositories) row := by
  rw [Tells, used]
  refine Inquiry.succeeds_steady_iff.mpr ⟨table, isTable, fun repository _ => ?_⟩
  rw [findingBy, used]
  simp [isTable, Except.toOption]

theorem tells_of_measurements
    (used : (if useLookups then row.lookup? else none) = none)
    (measured : ∀ repository ∈ repositories, ∃ finding,
      (findingVolley row repository).resultBy answer = .ok finding) :
    Tells (.steady answer) useLookups repositories
      (findingBy answer useLookups repositories) row := by
  rw [Tells, used]
  intro repository isRepository
  obtain ⟨finding, isFinding⟩ := measured repository isRepository
  refine Inquiry.succeeds_steady_iff.mpr ⟨finding, isFinding, ?_⟩
  rw [findingBy, used]
  simp [isFinding, Except.toOption]

theorem exists_task {repository : String} {subjects : List α} {subject : α}
    (isRepository : repository ∈ repositories) (isSubject : subject ∈ subjects) :
    ∃ task ∈ tasksOf repositories subjects,
      task.repository = repository ∧ task.subject = subject := by
  obtain ⟨first, isFirst⟩ := List.mem_iff_getElem?.mp isRepository
  obtain ⟨second, isSecond⟩ := List.mem_iff_getElem?.mp isSubject
  refine ⟨⟨first, repository, second, subject⟩, ?_, rfl, rfl⟩
  exact List.mem_flatMap.mpr ⟨(repository, first), List.mem_zipIdx_iff_getElem?.mpr isFirst,
    List.mem_map.mpr ⟨(subject, second), List.mem_zipIdx_iff_getElem?.mpr isSecond, rfl⟩⟩

/-- An assembly that succeeds was told the findings of its rows. -/
theorem tells_of_assembled
    {plan : Plan}
    {family : Family}
    {occasion : Occasion}
    {batch : Batch}
    (assembled : (assembleRows plan family rows occasion).resultBy answer = .ok batch) :
    ∀ row ∈ rows, Tells (.steady answer) plan.useLookups occasion.repositories
      (findingBy answer plan.useLookups occasion.repositories) row := by
  intro row isRow
  rw [assembleRows, Inquiry.resultBy_bind] at assembled
  obtain ⟨prepared, isPrepared, assembled⟩ := Outcome.exists_of_bind_eq_ok assembled
  rw [Inquiry.resultBy_bind] at assembled
  obtain ⟨measured, isMeasured, -⟩ := Outcome.exists_of_bind_eq_ok assembled
  obtain ⟨form, isForm, formed⟩ := Inquiry.exists_result_of_forEach isPrepared isRow
  cases used : if plan.useLookups then row.lookup? else none with
  | some lookup =>
    simp only [used] at formed
    rw [Inquiry.resultBy_bind] at formed
    obtain ⟨table, isTable, -⟩ := Outcome.exists_of_bind_eq_ok formed
    exact tells_of_lookUp used isTable
  | none =>
    simp only [used] at formed
    cases formed
    refine tells_of_measurements used fun repository isRepository => ?_
    obtain ⟨task, isTask, rfl, isSubject⟩ := exists_task isRepository isForm
    have unknown : task.known?.isNone = true := by
      rw [Task.known?, isSubject]
      rfl
    have isVolley : task.measurement ∈ measurementsOf occasion.repositories prepared :=
      List.mem_map_of_mem (List.mem_filter.mpr ⟨isTask, unknown⟩)
    obtain ⟨placed, -, isPlaced⟩ := Inquiry.exists_result_of_forEach isMeasured isVolley
    change task.measurement.resultBy answer = .ok placed at isPlaced
    rw [Task.measurement, Volley.resultBy_map, isSubject] at isPlaced
    obtain ⟨finding, isFinding, -⟩ := Outcome.exists_of_map_eq_ok isPlaced
    exact ⟨finding, isFinding⟩

/-- The assembly of rows comes to the batch of the findings that the answers tell. -/
theorem resultBy_assembleRows
    {plan : Plan}
    {occasion : Occasion}
    (family : Family)
    (tells : ∀ row ∈ rows, Tells (.steady answer) plan.useLookups occasion.repositories
      (findingBy answer plan.useLookups occasion.repositories) row) :
    (assembleRows plan family rows occasion).resultBy answer =
      .ok (rowsBatch (occasion.filing family) occasion.repositories rows
        (findingBy answer plan.useLookups occasion.repositories)) := by
  obtain ⟨batch, isBatch, rfl⟩ :=
    Inquiry.succeeds_steady_iff.mp (succeeds_assembleRows family tells)
  exact isBatch

/-! ### Checks -/

/-- What a release check says where every search has one answer. -/
def readinessBy (answer : Request → Outcome Response) (repository : String) (release : Release) :
    Readiness :=
  ((readinessVolley release repository).resultBy answer).toOption.getD ⟨0, 0, 0, 0, 0, none, []⟩

/-- The documents of all checks. -/
def checkPages (filing : Filing) (repositories : List String) (releases : List Release)
    (readiness : String → Release → Readiness) : List Document :=
  repositories.flatMap fun repository => releases.map fun release =>
    ⟨filing.origin repository, .release release (readiness repository release)⟩

/-- Every check is answered. -/
def Checked (answer : Request → Outcome Response) (repositories : List String)
    (releases : List Release) : Prop :=
  ∀ repository ∈ repositories, ∀ release ∈ releases, ∃ readiness,
    (readinessVolley release repository).resultBy answer = .ok readiness

theorem results_tasksOf
    (repositories : List String)
    (releases : List Release)
    (filing : Filing)
    (readiness : String → Release → Readiness) :
    (tasksOf repositories releases).map (fun task =>
      (⟨filing.origin task.repository,
        .release task.subject (readiness task.repository task.subject)⟩ : Document)) =
      checkPages filing repositories releases readiness := by
  rw [tasksOf, List.map_flatMap, checkPages]
  conv_rhs => rw [← List.zipIdx_map_fst 0 repositories, List.flatMap_map]
  refine List.flatMap_congr fun place _ => ?_
  conv_rhs => rw [← List.zipIdx_map_fst 0 releases]
  rw [List.map_map, List.map_map]
  rfl

theorem resultBy_assembleChecks
    {plan : Plan}
    {occasion : Occasion}
    (checked : Checked answer occasion.repositories plan.releases) :
    (assembleChecks plan occasion).resultBy answer =
      .ok (Batch.ofDocuments (checkPages (occasion.filing .releases) occasion.repositories
        plan.releases (readinessBy answer))) := by
  let document (task : Task Release) : Document :=
    ⟨(occasion.filing .releases).origin task.repository,
      .release task.subject (readinessBy answer task.repository task.subject)⟩
  have each : (Volley.inquireAll (checksOf (occasion.filing .releases) occasion.repositories
      plan.releases)).Succeeds (.steady answer)
        (· = (tasksOf occasion.repositories plan.releases).map fun task =>
          task.placed (document task)) := by
    rw [Volley.inquireAll, checksOf, Inquiry.forEach_map]
    refine Inquiry.Succeeds.forEach_eq fun task isTask => ?_
    obtain ⟨isRepository, isRelease⟩ := mem_tasksOf isTask
    obtain ⟨readiness, isReadiness⟩ := checked _ isRepository _ isRelease
    refine Volley.succeeds_map _
      (Inquiry.succeeds_steady_iff.mpr ⟨readiness, isReadiness, rfl⟩) fun result same => ?_
    simp only [document, same, readinessBy, isReadiness, Except.toOption, Option.getD_some]
  obtain ⟨_, isResult, rfl⟩ := Inquiry.succeeds_steady_iff.mp each
  rw [assembleChecks, Inquiry.resultBy_map, isResult]
  refine congrArg Except.ok ?_
  rw [batchOfChecks, inOrder_of_perm (List.Perm.refl _) (pairwise_placed _ _ _), List.map_map,
    ← results_tasksOf]
  rfl

theorem checked_of_assembled
    {plan : Plan}
    {occasion : Occasion}
    {batch : Batch}
    (assembled : (assembleChecks plan occasion).resultBy answer = .ok batch) :
    Checked answer occasion.repositories plan.releases := by
  intro repository isRepository release isRelease
  rw [assembleChecks, Inquiry.resultBy_map] at assembled
  obtain ⟨results, areResults, -⟩ := Outcome.exists_of_map_eq_ok assembled
  obtain ⟨task, isTask, rfl, rfl⟩ := exists_task isRepository isRelease
  obtain ⟨placed, -, isPlaced⟩ :=
    Inquiry.exists_result_of_forEach areResults (List.mem_map_of_mem isTask)
  change (task.check (occasion.filing .releases)).resultBy answer = .ok placed at isPlaced
  rw [Task.check, Volley.resultBy_map] at isPlaced
  obtain ⟨readiness, isReadiness, -⟩ := Outcome.exists_of_map_eq_ok isPlaced
  exact ⟨readiness, isReadiness⟩

/-! ### Families -/

/-- The documents of all pages. -/
def pages (filing : Filing) (repositories : List String) (rows : List Row)
    (finding : String → Row → Finding) : List Document :=
  repositories.flatMap fun repository => pageOf filing repository rows (finding repository)

/-- The documents of a family where every search has one answer. -/
def documentsBy (answer : Request → Outcome Response) (plan : Plan) (family : Family)
    (occasion : Occasion) : List Document :=
  match family with
  | .releases => checkPages (occasion.filing .releases) occasion.repositories plan.releases
    (readinessBy answer)
  | _ => pages (occasion.filing family) occasion.repositories family.rows
    (findingBy answer plan.useLookups occasion.repositories)

/-- The answers tell everything that a family is made of.  Neither the date nor the moment
matters. -/
def Told (answer : Request → Outcome Response) (plan : Plan) (family : Family)
    (repositories : List String) : Prop :=
  match family with
  | .releases => Checked answer repositories plan.releases
  | _ => ∀ row ∈ family.rows, Tells (.steady answer) plan.useLookups repositories
    (findingBy answer plan.useLookups repositories) row

/-- Where every search has one answer, a family is assembled exactly if the answers tell everything,
and its batch is that of the documents they tell. -/
theorem assembled_iff
    {plan : Plan}
    {family : Family}
    {occasion : Occasion}
    {batch : Batch} :
    (assemble plan family occasion).resultBy answer = .ok batch ↔
      Told answer plan family occasion.repositories ∧
        batch = Batch.ofDocuments (documentsBy answer plan family occasion) := by
  have rowsIff (family : Family) :
      (assembleRows plan family family.rows occasion).resultBy answer = .ok batch ↔
        (∀ row ∈ family.rows, Tells (.steady answer) plan.useLookups occasion.repositories
          (findingBy answer plan.useLookups occasion.repositories) row) ∧
          batch = Batch.ofDocuments (pages (occasion.filing family) occasion.repositories
            family.rows (findingBy answer plan.useLookups occasion.repositories)) := by
    constructor
    · intro assembled
      have tells := tells_of_assembled assembled
      have isBatch := resultBy_assembleRows family tells
      rw [assembled] at isBatch
      exact ⟨tells, Except.ok.inj isBatch⟩
    · rintro ⟨tells, rfl⟩
      exact resultBy_assembleRows family tells
  cases family with
  | releases =>
    constructor
    · intro assembled
      have checked := checked_of_assembled assembled
      have isBatch := resultBy_assembleChecks checked
      change (assembleChecks plan occasion).resultBy answer = _ at assembled
      rw [assembled] at isBatch
      exact ⟨checked, Except.ok.inj isBatch⟩
    · rintro ⟨checked, rfl⟩
      exact resultBy_assembleChecks checked
  | general => exact rowsIff .general
  | labels => exact rowsIff .labels
  | health => exact rowsIff .health
  | coverage => exact rowsIff .coverage

/-- The same of a run, whatever was asked before. -/
theorem run_assemble_iff
    {plan : Plan}
    {family : Family}
    {occasion : Occasion}
    {batch : Batch}
    (asked : List Request) :
    ((assemble plan family occasion).run (.steady answer) asked).2 = .ok batch ↔
      Told answer plan family occasion.repositories ∧
        batch = Batch.ofDocuments (documentsBy answer plan family occasion) := by
  rw [Inquiry.run_steady]
  exact assembled_iff

end RepoVitals.Assembly

import RepoVitals.Proofs.Assembly.Drafts
import RepoVitals.Proofs.Assembly.Inquiry
import Mathlib.Data.List.Basic
/-!
The batch of rows, from one finding for each pair.

Owns:
- the volley of a pair whose searches are answered;
- `Tells`: an executor tells the findings of a row, through its lookup or through its measurements;
- `succeeds_assembleRows`: if it tells those of every row, the assembly comes to the batch of these
  findings, whichever rows were looked up.
-/

namespace RepoVitals.Assembly

open Catalogue (Row Threshold)
open Search (Request Response)

variable {α β : Type} {executor : Executor}

/-! ### Findings -/

/-- The executor tells the limit that a threshold sets for a repository. -/
def Limits (executor : Executor) (repository : String) : Option Threshold → Option Int → Prop
  | none, limit => limit = none
  | some (.fixed value), limit => limit = some value
  | some (.share index conditions percent), limit =>
    (Inquiry.search (Request.count index ((Catalogue.pinned repository).and conditions))).Succeeds
      executor (fun response =>
        ∃ share, Catalogue.shareOf percent response = .ok share ∧ limit = some share)

theorem succeeds_findingVolley
    {row : Row}
    {repository : String}
    {finding : Finding}
    (answered : (Inquiry.search (row.request repository)).Succeeds executor
      (fun response => row.extract response = .ok finding.extracted))
    (limits : Limits executor repository row.threshold finding.threshold) :
    (findingVolley row repository).inquiry.Succeeds executor (· = finding) := by
  obtain ⟨extracted, limit⟩ := finding
  have read {limit : Option Int} {response : Response}
      (isExtracted : row.extract response = .ok extracted) :
      (row.extract response).map (⟨·, limit⟩) = .ok (⟨extracted, limit⟩ : Finding) := by
    rw [isExtracted]
    rfl
  unfold findingVolley
  generalize row.threshold = threshold at limits ⊢
  rcases threshold with _ | value | ⟨index, conditions, percent⟩
  · cases limits
    refine (answered.bind fun response isExtracted => ?_).within _
    exact Inquiry.Succeeds.ofOutcome (read isExtracted) rfl
  · cases limits
    refine (answered.bind fun response isExtracted => ?_).within _
    exact Inquiry.Succeeds.ofOutcome (read isExtracted) rfl
  · refine (answered.bind fun response isExtracted => ?_).within _
    refine Inquiry.Succeeds.bind limits fun second isLimit => ?_
    obtain ⟨share, isShare, rfl⟩ := isLimit
    refine Inquiry.Succeeds.ofOutcome ?_ rfl
    simp only [isExtracted, isShare, Outcome.ok_bind, Outcome.pure_eq]

/-! ### Pairs -/

theorem tasksOf_map (repositories : List String) (subjects : List α) (change : α → β) :
    tasksOf repositories (subjects.map change) =
      (tasksOf repositories subjects).map (fun task =>
        ⟨task.repositoryIndex, task.repository, task.subjectIndex, change task.subject⟩) := by
  simp only [tasksOf, List.zipIdx_map, List.map_flatMap, List.map_map]
  rfl

/-- For a repository, a prepared row has this finding in its table, or comes to it by measuring. -/
def PreparedRow.Gives (executor : Executor) (prepared : PreparedRow) (repository : String)
    (finding : Finding) : Prop :=
  match prepared.known? repository with
  | some known => known = finding
  | none => (findingVolley prepared.row repository).inquiry.Succeeds executor (· = finding)

/-- The finding of a pair at the place of the pair. -/
def Task.finding (finding : String → Row → Finding) (task : Task PreparedRow) : Placed Finding :=
  task.placed (finding task.repository task.subject.row)

variable {repositories : List String} {prepared : List PreparedRow}
  {finding : String → Row → Finding}

theorem knownOf_eq
    (gives : ∀ row ∈ prepared, ∀ repository ∈ repositories,
      row.Gives executor repository (finding repository row.row)) :
    knownOf repositories prepared =
      ((tasksOf repositories prepared).filter (fun task => task.known?.isSome)).map
        (Task.finding finding) := by
  have onlyKnown : knownOf repositories prepared =
      ((tasksOf repositories prepared).filter (fun task => task.known?.isSome)).filterMap
        Task.known? := by
    rw [knownOf, List.filterMap_filter]
    apply List.filterMap_congr
    intro task _
    cases task.known? <;> rfl
  rw [onlyKnown, List.filterMap_eq_map_iff_forall_eq_some]
  intro task member
  obtain ⟨isTask, isKnown⟩ := List.mem_filter.mp member
  obtain ⟨isRepository, isRow⟩ := mem_tasksOf isTask
  have given := gives task.subject isRow task.repository isRepository
  unfold PreparedRow.Gives at given
  unfold Task.known? at isKnown ⊢
  cases known : task.subject.known? task.repository with
  | none => simp [known] at isKnown
  | some found =>
    rw [known] at given
    rw [Option.map_some, Task.finding, ← given]

theorem succeeds_measurements
    (gives : ∀ row ∈ prepared, ∀ repository ∈ repositories,
      row.Gives executor repository (finding repository row.row)) :
    (Volley.inquireAll (measurementsOf repositories prepared)).Succeeds executor
      (· = ((tasksOf repositories prepared).filter (fun task => task.known?.isNone)).map
        (Task.finding finding)) := by
  rw [Volley.inquireAll, measurementsOf, Inquiry.forEach_map]
  apply Inquiry.Succeeds.forEach_eq
  intro task member
  obtain ⟨isTask, isUnknown⟩ := List.mem_filter.mp member
  obtain ⟨isRepository, isRow⟩ := mem_tasksOf isTask
  have given := gives task.subject isRow task.repository isRepository
  unfold PreparedRow.Gives at given
  unfold Task.known? at isUnknown
  cases known : task.subject.known? task.repository with
  | some found => simp [known] at isUnknown
  | none =>
    rw [known] at given
    refine Volley.succeeds_map task.placed given fun result isFinding => ?_
    rw [Task.finding, isFinding]

/-! ### Rows -/

/-- The executor tells what a row finds for these repositories: through the row's lookup, if it has
one that is used, and otherwise through a measurement of each pair. -/
def Tells (executor : Executor) (useLookups : Bool) (repositories : List String)
    (finding : String → Row → Finding) (row : Row) : Prop :=
  match if useLookups then row.lookup? else none with
  | none => ∀ repository ∈ repositories,
    (findingVolley row repository).inquiry.Succeeds executor (· = finding repository row)
  | some lookup => (lookUp row lookup repositories).Succeeds executor (fun table =>
    ∀ repository ∈ repositories,
      finding repository row =
        ⟨.labels lookup.side ((table.get? repository).getD Ledger.empty), none⟩)

/-- The prepared form of a row gives the findings of the row. -/
def Prepares (executor : Executor) (repositories : List String) (finding : String → Row → Finding)
    (row : Row) (prepared : PreparedRow) : Prop :=
  prepared.row = row ∧
    ∀ repository ∈ repositories, prepared.Gives executor repository (finding repository row)

theorem succeeds_prepare
    {useLookups : Bool}
    {rows : List Row}
    (tells : ∀ row ∈ rows, Tells executor useLookups repositories finding row) :
    (prepare useLookups repositories rows).Succeeds executor
      (List.Forall₂ (Prepares executor repositories finding) rows) := by
  apply Inquiry.Succeeds.forEach
  intro row member
  have told := tells row member
  unfold Tells at told
  cases used : if useLookups then row.lookup? else none with
  | none =>
    rw [used] at told
    exact Inquiry.Succeeds.pure ⟨rfl, told⟩
  | some lookup =>
    rw [used] at told
    refine Inquiry.Succeeds.bind told fun table isTable => ?_
    refine Inquiry.Succeeds.pure ⟨rfl, fun repository isRepository => ?_⟩
    exact (isTable repository isRepository).symm

theorem gives_of_prepares
    {rows : List Row}
    (prepares : List.Forall₂ (Prepares executor repositories finding) rows prepared) :
    prepared.map PreparedRow.row = rows ∧
      ∀ row ∈ prepared, ∀ repository ∈ repositories,
        row.Gives executor repository (finding repository row.row) := by
  induction prepares with
  | nil => exact ⟨rfl, fun _ none => absurd none List.not_mem_nil⟩
  | cons first rest inductionHypothesis =>
    obtain ⟨sameRow, gives⟩ := first
    subst sameRow
    obtain ⟨sameRows, givesRest⟩ := inductionHypothesis
    refine ⟨by rw [List.map_cons, sameRows], fun row member => ?_⟩
    rcases List.mem_cons.mp member with rfl | later
    · exact gives
    · exact givesRest row later

/-! ### Batches -/

/-- The batch of rows that have these findings. -/
def rowsBatch (filing : Filing) (repositories : List String) (rows : List Row)
    (finding : String → Row → Finding) : Batch :=
  Batch.ofDocuments (repositories.flatMap (fun repository =>
    pageOf filing repository rows (finding repository)))

/-- **Where a finding comes from does not matter.**  If the executor tells the findings of every
row, the assembly comes to the batch of these findings, whichever of them were looked up. -/
theorem succeeds_assembleRows
    {plan : Plan}
    {rows : List Row}
    {occasion : Occasion}
    (family : Catalogue.Family)
    (tells : ∀ row ∈ rows, Tells executor plan.useLookups occasion.repositories finding row) :
    (assembleRows plan family rows occasion).Succeeds executor
      (· = rowsBatch (occasion.filing family) occasion.repositories rows finding) := by
  unfold assembleRows
  refine Inquiry.Succeeds.bind (succeeds_prepare tells) fun prepared prepares => ?_
  obtain ⟨isRows, gives⟩ := gives_of_prepares prepares
  refine Inquiry.Succeeds.bind (succeeds_measurements gives) fun measured isMeasured => ?_
  apply Inquiry.Succeeds.pure
  have tasks : (tasksOf occasion.repositories prepared).map (Task.finding finding) =
      (tasksOf occasion.repositories rows).map (fun task =>
        task.placed (finding task.repository task.subject)) := by
    rw [← isRows, tasksOf_map, List.map_map]
    rfl
  have same : (knownOf occasion.repositories prepared ++ measured).Perm
      ((tasksOf occasion.repositories rows).map (fun task =>
        task.placed (finding task.repository task.subject))) := by
    rw [knownOf_eq gives, isMeasured, ← List.map_append, ← tasks]
    have split := List.filter_append_perm (fun task : Task PreparedRow => task.known?.isSome)
      (tasksOf occasion.repositories prepared)
    simp only [Option.not_isSome] at split
    exact split.map _
  rw [batchOfFindings, inOrder_of_perm same (pairwise_placed _ _ _), documentsOf_tasks, rowsBatch]

end RepoVitals.Assembly

import RepoVitals.Proofs.Assembly.Drafts
import RepoVitals.Proofs.Assembly.Findings
import RepoVitals.Proofs.Batch
/-!
Repository lists in two parts.

Owns:
- rows whose lookup is not used, which are told one repository at a time;
- what is told about a list of repositories, and its documents, part by part;
- `assembled_in_parts`: the batch of two lists one after the other is the batch of the first,
  overwritten by the batch of the second.

A lookup is one search about all repositories, so what it tells about one of them depends on the
whole list; where label lookups are used the parts are not told by themselves.
-/

namespace RepoVitals.Assembly

open Catalogue (Family Row)
open Search (Request Response)

variable {answer : Request → Outcome Response} {plan : Plan} {family : Family}

/-! ### Rows without lookups -/

/-- Every row of the family is measured repository by repository. -/
def MeasuresAll (plan : Plan) (family : Family) : Prop :=
  ∀ row ∈ family.rows, (if plan.useLookups then row.lookup? else none) = none

/-- Only label rows have lookups. -/
theorem measuresAll_of_unused (unused : family = .labels → plan.useLookups = false) :
    MeasuresAll plan family := by
  have noLookup : ∀ family ∈ [Family.general, .health, .coverage, .releases],
      ∀ row ∈ family.rows, row.lookup?.isNone = true := by
    decide
  intro row isRow
  by_cases isLabels : family = .labels
  · rw [unused isLabels]
    rfl
  · have isOther : family ∈ [Family.general, .health, .coverage, .releases] := by
      cases family <;> first | decide | exact absurd rfl isLabels
    rw [Option.isNone_iff_eq_none.mp (noLookup family isOther row isRow), ite_self]

variable {useLookups : Bool} {row : Row}

theorem findingBy_of_unused
    (unused : (if useLookups then row.lookup? else none) = none)
    (repositories repositories' : List String)
    (repository : String) :
    findingBy answer useLookups repositories repository row =
      findingBy answer useLookups repositories' repository row := by
  rw [findingBy, findingBy, unused]

theorem tells_iff_of_unused
    (unused : (if useLookups then row.lookup? else none) = none)
    {repositories : List String} :
    Tells (.steady answer) useLookups repositories
        (findingBy answer useLookups repositories) row ↔
      ∀ repository ∈ repositories, ∃ finding,
        (findingVolley row repository).resultBy answer = .ok finding := by
  constructor
  · intro tells repository isRepository
    rw [Tells, unused] at tells
    obtain ⟨finding, isFinding, -⟩ :=
      Inquiry.succeeds_steady_iff.mp (tells repository isRepository)
    exact ⟨finding, isFinding⟩
  · exact tells_of_measurements unused

/-! ### Two parts -/

theorem pages_congr
    (filing : Filing)
    (repositories : List String)
    {rows : List Row}
    {finding finding' : String → Row → Finding}
    (same : ∀ row ∈ rows, ∀ repository, finding repository row = finding' repository row) :
    pages filing repositories rows finding = pages filing repositories rows finding' := by
  apply List.flatMap_congr
  intro repository _
  apply pageOf_congr
  intro row isRow
  exact same row isRow repository

theorem pages_append
    {rows : List Row}
    (measures : ∀ row ∈ rows, (if useLookups then row.lookup? else none) = none)
    (filing : Filing)
    (first second : List String) :
    pages filing (first ++ second) rows (findingBy answer useLookups (first ++ second)) =
      pages filing first rows (findingBy answer useLookups first) ++
        pages filing second rows (findingBy answer useLookups second) := by
  have left : pages filing first rows (findingBy answer useLookups (first ++ second)) =
      pages filing first rows (findingBy answer useLookups first) :=
    pages_congr filing first fun row isRow => findingBy_of_unused (measures row isRow) _ _
  have right : pages filing second rows (findingBy answer useLookups (first ++ second)) =
      pages filing second rows (findingBy answer useLookups second) :=
    pages_congr filing second fun row isRow => findingBy_of_unused (measures row isRow) _ _
  rw [← left, ← right]
  exact List.flatMap_append

theorem documentsBy_append
    (measures : MeasuresAll plan family)
    (first second : List String)
    (date : Calendar.Date)
    (runAt : Calendar.Moment) :
    documentsBy answer plan family ⟨first ++ second, date, runAt⟩ =
      documentsBy answer plan family ⟨first, date, runAt⟩ ++
        documentsBy answer plan family ⟨second, date, runAt⟩ := by
  cases family with
  | releases => exact List.flatMap_append
  | general | labels | health | coverage => exact pages_append measures _ first second

theorem tells_append_iff
    (unused : (if useLookups then row.lookup? else none) = none)
    (first second : List String) :
    Tells (.steady answer) useLookups (first ++ second)
        (findingBy answer useLookups (first ++ second)) row ↔
      Tells (.steady answer) useLookups first (findingBy answer useLookups first) row ∧
        Tells (.steady answer) useLookups second (findingBy answer useLookups second) row := by
  rw [tells_iff_of_unused unused, tells_iff_of_unused unused, tells_iff_of_unused unused]
  exact List.forall_mem_append

theorem told_append_iff
    (measures : MeasuresAll plan family)
    (first second : List String) :
    Told answer plan family (first ++ second) ↔
      Told answer plan family first ∧ Told answer plan family second := by
  have rowsTold : (∀ row ∈ family.rows, Tells (.steady answer) plan.useLookups (first ++ second)
        (findingBy answer plan.useLookups (first ++ second)) row) ↔
      (∀ row ∈ family.rows, Tells (.steady answer) plan.useLookups first
        (findingBy answer plan.useLookups first) row) ∧
      ∀ row ∈ family.rows, Tells (.steady answer) plan.useLookups second
        (findingBy answer plan.useLookups second) row := by
    rw [← forall₂_and]
    refine forall₂_congr fun row isRow => ?_
    exact tells_append_iff (measures row isRow) first second
  cases family with
  | releases => exact List.forall_mem_append
  | general | labels | health | coverage => exact rowsTold

/-- **Repository lists may be split.**  Unless label lookups are used, two lists of repositories one
after the other are assembled if and only if each of them is.  The batch then is that of the first
list, overwritten id by id with that of the second. -/
theorem assembled_in_parts
    (plan : Plan)
    (family : Family)
    (first second : List String)
    (date : Calendar.Date)
    (runAt : Calendar.Moment)
    (asked : List Request)
    {answer : Request → Outcome Response}
    (unused : family = .labels → plan.useLookups = false) :
    let batchOf (repositories : List String) : Outcome Batch :=
      ((assemble plan family ⟨repositories, date, runAt⟩).run (.steady answer) asked).2
    ((∃ whole, batchOf (first ++ second) = .ok whole) ↔
      (∃ left, batchOf first = .ok left) ∧ ∃ right, batchOf second = .ok right) ∧
    ∀ left right, batchOf first = .ok left → batchOf second = .ok right →
      ∃ whole, batchOf (first ++ second) = .ok whole ∧
        ∀ id, whole.get? id = (right.get? id).or (left.get? id) := by
  intro batchOf
  have measures := measuresAll_of_unused unused
  have isBatch (repositories : List String) (batch : Batch) :
      batchOf repositories = .ok batch ↔ Told answer plan family repositories ∧
        batch = Batch.ofDocuments (documentsBy answer plan family ⟨repositories, date, runAt⟩) :=
    run_assemble_iff asked
  have isAssembled (repositories : List String) :
      (∃ batch, batchOf repositories = .ok batch) ↔ Told answer plan family repositories := by
    simp only [isBatch, exists_and_left, exists_eq, and_true]
  constructor
  · rw [isAssembled, isAssembled, isAssembled]
    exact told_append_iff measures first second
  · intro left right isLeft isRight
    obtain ⟨toldFirst, rfl⟩ := (isBatch first left).mp isLeft
    obtain ⟨toldSecond, rfl⟩ := (isBatch second right).mp isRight
    refine ⟨_, (isBatch _ _).mpr ⟨?_, rfl⟩, fun id => ?_⟩
    · exact (told_append_iff measures first second).mpr ⟨toldFirst, toldSecond⟩
    · rw [documentsBy_append measures, Batch.get?_ofDocuments_append]

/-- Labels that are measured repository by repository, with a repository on both lists. -/
theorem assembled_in_parts_with_shared_repository :
    let plan : Plan := ⟨false, [], 1⟩
    let buckets : Json.Value := .ofFields [("buckets", .array
      [.ofFields [("key", .text "bug"), ("doc_count", .integer 2)]])]
    let answer : Request → Outcome Response := fun request =>
      .ok ⟨none, [], Ledger.ofList (request.aggregations.map fun named => (named.1, buckets))⟩
    let batchOf (repositories : List String) : Outcome Batch :=
      ((assemble plan .labels ⟨repositories, ⟨2024, 6, 1, by decide⟩, ⟨1717200000, 0⟩⟩).run
        (.steady answer) []).2
    ∃ left right whole, batchOf ["a", "b"] = .ok left ∧ batchOf ["b", "c"] = .ok right ∧
      batchOf ["a", "b", "b", "c"] = .ok whole ∧
        ∀ id, whole.get? id = (right.get? id).or (left.get? id) := by
  intro plan buckets answer batchOf
  have told (repositories : List String) : Told answer plan .labels repositories := by
    intro row isRow
    refine tells_of_measurements rfl fun repository _ => ?_
    rcases List.mem_pair.mp isRow with rfl | rfl
    · exact ⟨_, rfl⟩
    · exact ⟨_, rfl⟩
  have isBatch (repositories : List String) : ∃ batch, batchOf repositories = .ok batch :=
    ⟨_, (run_assemble_iff []).mpr ⟨told repositories, rfl⟩⟩
  obtain ⟨left, isLeft⟩ := isBatch ["a", "b"]
  obtain ⟨right, isRight⟩ := isBatch ["b", "c"]
  obtain ⟨whole, isWhole, overwritten⟩ := (assembled_in_parts plan .labels ["a", "b"] ["b", "c"]
    ⟨2024, 6, 1, by decide⟩ ⟨1717200000, 0⟩ [] fun _ => rfl).2 left right isLeft isRight
  exact ⟨left, right, whole, isLeft, isRight, isWhole, overwritten⟩

end RepoVitals.Assembly

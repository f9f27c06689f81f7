import RepoVitals.Assembly.Batches
import RepoVitals.Proofs.Assembly.Order
import Mathlib.Data.List.Basic
/-!
Drafts, page by page.

Owns:
- `pageOf`: the documents of one repository, from its findings alone;
- findings that are not labels, whose documents are written one by one;
- what a draft has written once its labels are flushed, and the invariant that carries a draft from
  one repository to the next;
- `documentsOf_tasks`: the documents of all findings in order are the pages of the repositories, one
  after the other.

The labels that a draft gathers are those of the repository it has come to.  They leave with the
page of that repository, so no page has labels of another one.
-/

namespace RepoVitals.Assembly

open Catalogue (Row)

/-! ### Pages -/

/-- Take a finding into the labels seen so far, if it counts labels. -/
def gather (labels : Ledger LabelCounts) (finding : Finding) : Ledger LabelCounts :=
  match finding.extracted with
  | .labels side counts => mergeLabels labels side counts
  | _ => labels

/-- The documents of a repository: those of the findings that are complete by themselves, and then
one for each label. -/
def pageOf (filing : Filing) (repository : String) (rows : List Row) (finding : Row → Finding) :
    List Document :=
  rows.filterMap (fun row => documentOf? filing repository row.name (finding row)) ++
    labelDocuments filing repository ((rows.map finding).foldl gather Ledger.empty)

theorem pageOf_congr
    {filing : Filing}
    {repository : String}
    {rows : List Row}
    {first second : Row → Finding}
    (same : ∀ row ∈ rows, first row = second row) :
    pageOf filing repository rows first = pageOf filing repository rows second := by
  have singles : rows.filterMap (fun row => documentOf? filing repository row.name (first row)) =
      rows.filterMap (fun row => documentOf? filing repository row.name (second row)) :=
    List.filterMap_congr fun row isRow => by rw [same row isRow]
  rw [pageOf, pageOf, singles, List.map_congr_left same]

namespace Draft

variable {filing : Filing} {repositories rowNames : List String}

/-- The documents that have been written once the labels at hand are flushed. -/
def written (filing : Filing) (repositories : List String) (draft : Draft) : List Document :=
  (draft.flush filing repositories).reversed.reverse

/-! ### One repository -/

/-- A repository is entered once. -/
theorem add_enter (draft : Draft) (measurement : Placed Finding) :
    (draft.enter filing repositories measurement.repository).add filing repositories rowNames
      measurement = draft.add filing repositories rowNames measurement := by
  have again : (draft.enter filing repositories measurement.repository).enter filing repositories
      measurement.repository = draft.enter filing repositories measurement.repository := by
    by_cases there : draft.repository = some measurement.repository
    · simp only [enter, if_pos there]
    · simp only [enter, if_neg there, if_true]
  simp only [add, again]

/-- The document of a measurement, if it is complete by itself. -/
def single? (filing : Filing) (repositories rowNames : List String)
    (measurement : Placed Finding) : Option Document :=
  documentOf? filing (repositories.getD measurement.repository "")
    (rowNames.getD measurement.subject "") measurement.result

theorem add_of_entered
    {draft : Draft}
    {measurement : Placed Finding}
    (entered : draft.repository = some measurement.repository) :
    draft.add filing repositories rowNames measurement =
      { reversed := (single? filing repositories rowNames measurement).toList ++ draft.reversed
        repository := draft.repository
        labels := gather draft.labels measurement.result } := by
  have there : draft.enter filing repositories measurement.repository = draft := if_pos entered
  unfold add gather single? documentOf?
  simp only [there]
  cases measurement.result.extracted <;> rfl

theorem foldl_add_of_entered
    {draft : Draft}
    {index : Nat}
    {block : List (Placed Finding)}
    (entered : draft.repository = some index)
    (here : ∀ measurement ∈ block, measurement.repository = index) :
    block.foldl (add filing repositories rowNames) draft =
      { reversed :=
          (block.filterMap (single? filing repositories rowNames)).reverse ++ draft.reversed
        repository := some index
        labels := (block.map Placed.result).foldl gather draft.labels } := by
  induction block generalizing draft with
  | nil =>
    rw [← entered]
    rfl
  | cons first rest inductionHypothesis =>
    have isHere : draft.repository = some first.repository := by
      rw [entered, here first List.mem_cons_self]
    have hereRest := fun measurement member => here measurement (List.mem_cons_of_mem _ member)
    rw [List.foldl_cons, add_of_entered isHere]
    refine Eq.trans (inductionHypothesis ?_ hereRest) ?_
    · exact entered
    · rw [List.map_cons, List.foldl_cons, List.filterMap_cons]
      cases single? filing repositories rowNames first <;> simp

/-! ### Findings without labels -/

theorem flush_of_noLabels
    {draft : Draft}
    (noLabels : draft.labels = Ledger.empty) :
    (draft.flush filing repositories).labels = Ledger.empty ∧
      (draft.flush filing repositories).reversed = draft.reversed := by
  unfold flush
  cases draft.repository with
  | none => exact ⟨noLabels, rfl⟩
  | some index =>
    refine ⟨rfl, ?_⟩
    dsimp only
    rw [noLabels]
    rfl

variable (filing repositories) in
theorem enter_of_noLabels
    {draft : Draft}
    (noLabels : draft.labels = Ledger.empty)
    (index : Nat) :
    (draft.enter filing repositories index).labels = Ledger.empty ∧
      (draft.enter filing repositories index).reversed = draft.reversed := by
  unfold enter
  split
  · exact ⟨noLabels, rfl⟩
  · exact flush_of_noLabels noLabels

variable (filing repositories rowNames) in
/-- A finding that is not labels is a document at once. -/
theorem add_of_noLabels
    {draft : Draft}
    {measurement : Placed Finding}
    (noLabels : draft.labels = Ledger.empty)
    (plain : ∀ side counts, measurement.result.extracted ≠ .labels side counts) :
    (draft.add filing repositories rowNames measurement).labels = Ledger.empty ∧
      (draft.add filing repositories rowNames measurement).reversed =
        (single? filing repositories rowNames measurement).toList ++ draft.reversed := by
  obtain ⟨stillNone, same⟩ :=
    enter_of_noLabels filing repositories noLabels measurement.repository
  unfold add
  dsimp only
  split
  · rename_i side counts isLabels
    exact absurd isLabels (plain side counts)
  · exact ⟨stillNone, by rw [same, single?]⟩

variable (filing repositories rowNames) in
theorem foldl_add_of_noLabels
    {draft : Draft}
    {measurements : List (Placed Finding)}
    (noLabels : draft.labels = Ledger.empty)
    (plain : ∀ measurement ∈ measurements, ∀ side counts,
      measurement.result.extracted ≠ .labels side counts) :
    (measurements.foldl (add filing repositories rowNames) draft).labels = Ledger.empty ∧
      (measurements.foldl (add filing repositories rowNames) draft).reversed =
        (measurements.filterMap (single? filing repositories rowNames)).reverse ++
          draft.reversed := by
  induction measurements generalizing draft with
  | nil => exact ⟨noLabels, rfl⟩
  | cons first rest inductionHypothesis =>
    obtain ⟨stillNone, isAdded⟩ :=
      add_of_noLabels filing repositories rowNames noLabels (plain first List.mem_cons_self)
    obtain ⟨none, isWritten⟩ := inductionHypothesis stillNone fun measurement isLater =>
      plain measurement (List.mem_cons_of_mem _ isLater)
    refine ⟨none, ?_⟩
    rw [List.foldl_cons, isWritten, isAdded, List.filterMap_cons]
    cases single? filing repositories rowNames first <;> simp

/-- The documents of findings that are not labels are those of the findings, one by one. -/
theorem documentsOf_of_noLabels
    {measurements : List (Placed Finding)}
    (plain : ∀ measurement ∈ measurements, ∀ side counts,
      measurement.result.extracted ≠ .labels side counts) :
    documentsOf filing repositories rowNames measurements =
      measurements.filterMap (single? filing repositories rowNames) := by
  have starts : Draft.empty.labels = Ledger.empty := rfl
  obtain ⟨none, isWritten⟩ :=
    foldl_add_of_noLabels filing repositories rowNames starts plain
  rw [documentsOf, (flush_of_noLabels none).2, isWritten, List.reverse_append,
    List.reverse_reverse]
  rfl

/-! ### One repository after the other -/

/-- Labels are at hand only for a repository. -/
def Tidy (draft : Draft) : Prop :=
  draft.repository = none → draft.labels = Ledger.empty

theorem enter_of_elsewhere
    {draft : Draft}
    {index : Nat}
    (tidy : draft.Tidy)
    (elsewhere : draft.repository ≠ some index) :
    draft.enter filing repositories index =
      { reversed := (draft.written filing repositories).reverse
        repository := some index
        labels := Ledger.empty } := by
  rw [enter, if_neg elsewhere, written, List.reverse_reverse]
  unfold flush
  cases place : draft.repository with
  | none => simp only [tidy place]
  | some _ => rfl

/-- The page that the measurements of a repository make. -/
def pageOfBlock (filing : Filing) (repositories rowNames : List String) (index : Nat)
    (block : List (Placed Finding)) : List Document :=
  block.filterMap (single? filing repositories rowNames) ++
    labelDocuments filing (repositories.getD index "")
      ((block.map Placed.result).foldl gather Ledger.empty)

/-- The measurements of a repository leave its page behind what was written before. -/
theorem foldl_add_block
    (filing : Filing)
    (repositories rowNames : List String)
    {draft : Draft}
    {index : Nat}
    {block : List (Placed Finding)}
    (tidy : draft.Tidy)
    (elsewhere : draft.repository ≠ some index)
    (here : ∀ measurement ∈ block, measurement.repository = index)
    (someMeasured : block ≠ []) :
    let after := block.foldl (add filing repositories rowNames) draft
    after.repository = some index ∧
      after.written filing repositories =
        draft.written filing repositories ++
          pageOfBlock filing repositories rowNames index block := by
  obtain ⟨first, rest, rfl⟩ := List.exists_cons_of_ne_nil someMeasured
  -- The first measurement enters the repository, and the others find it entered.
  have start : (first :: rest).foldl (add filing repositories rowNames) draft =
      (first :: rest).foldl (add filing repositories rowNames)
        (draft.enter filing repositories index) := by
    rw [List.foldl_cons, List.foldl_cons, ← add_enter, here first List.mem_cons_self]
  have entered : (draft.enter filing repositories index).repository = some index := by
    rw [enter_of_elsewhere tidy elsewhere]
  intro after
  have course := start.trans (foldl_add_of_entered entered here)
  rw [enter_of_elsewhere tidy elsewhere] at course
  rw [show after = _ from course]
  refine ⟨rfl, ?_⟩
  unfold written flush pageOfBlock
  simp

end Draft

/-- The measurements of one repository, in the order of the rows. -/
def measurementsFor (rows : List Row) (finding : String → Row → Finding)
    (repository : String × Nat) : List (Placed Finding) :=
  rows.zipIdx.map (fun row => ⟨repository.2, row.2, finding repository.1 row.1⟩)

theorem placed_tasksOf
    (repositories : List String)
    (rows : List Row)
    (finding : String → Row → Finding) :
    (tasksOf repositories rows).map (fun task =>
      task.placed (finding task.repository task.subject)) =
      repositories.zipIdx.flatMap (measurementsFor rows finding) := by
  rw [tasksOf, List.map_flatMap]
  simp only [List.map_map]
  rfl

/-- At its places, what is measured of a repository is what its page is made of. -/
theorem pageOfBlock_measurementsFor
    (filing : Filing)
    {repositories : List String}
    (rows : List Row)
    (finding : String → Row → Finding)
    {repository : String × Nat}
    (member : repository ∈ repositories.zipIdx) :
    Draft.pageOfBlock filing repositories (rows.map Row.name) repository.2
        (measurementsFor rows finding repository) =
      pageOf filing repository.1 rows (finding repository.1) := by
  have isRepository : repositories.getD repository.2 "" = repository.1 := by
    rw [List.getD_eq_getElem?_getD, List.mem_zipIdx_iff_getElem?.mp member, Option.getD_some]
  have results : (measurementsFor rows finding repository).map Placed.result =
      rows.map (finding repository.1) := by
    conv_rhs => rw [← List.zipIdx_map_fst 0 rows]
    simp only [measurementsFor, List.map_map]
    rfl
  have singles : (measurementsFor rows finding repository).filterMap
      (Draft.single? filing repositories (rows.map Row.name)) =
      rows.filterMap (fun row =>
        documentOf? filing repository.1 row.name (finding repository.1 row)) := by
    conv_rhs => rw [← List.zipIdx_map_fst 0 rows]
    rw [measurementsFor, List.filterMap_map, List.filterMap_map]
    apply List.filterMap_congr
    intro row isRow
    have isName : (rows.map Row.name).getD row.2 "" = row.1.name := by
      rw [List.getD_eq_getElem?_getD, List.getElem?_map, List.mem_zipIdx_iff_getElem?.mp isRow,
        Option.map_some, Option.getD_some]
    simp only [Function.comp_apply, Draft.single?, isRepository, isName]
  rw [Draft.pageOfBlock, results, singles, isRepository, pageOf]

theorem written_places
    (filing : Filing)
    {repositories : List String}
    {rows : List Row}
    (finding : String → Row → Finding)
    (someRow : rows ≠ [])
    {places : List (String × Nat)}
    (within : ∀ place ∈ places, place ∈ repositories.zipIdx)
    (ascending : places.Pairwise (fun first second => first.2 < second.2))
    {draft : Draft}
    (tidy : draft.Tidy)
    (ahead : ∀ place ∈ places, draft.repository ≠ some place.2) :
    ((places.flatMap (measurementsFor rows finding)).foldl
        (Draft.add filing repositories (rows.map Row.name)) draft).written filing repositories =
      draft.written filing repositories ++
        places.flatMap (fun place => pageOf filing place.1 rows (finding place.1)) := by
  -- The places ascend, so that no later one is where the draft has come to by then.
  induction places generalizing draft with
  | nil => simp
  | cons place later inductionHypothesis =>
    obtain ⟨first, ascendingLater⟩ := List.pairwise_cons.mp ascending
    have here : ∀ measurement ∈ measurementsFor rows finding place,
        measurement.repository = place.2 := by
      intro measurement member
      obtain ⟨_, _, rfl⟩ := List.mem_map.mp member
      rfl
    have someMeasured : measurementsFor rows finding place ≠ [] := by
      intro none
      exact someRow (List.zipIdx_eq_nil_iff.mp (List.map_eq_nil_iff.mp none))
    obtain ⟨isHere, isWritten⟩ := Draft.foldl_add_block filing repositories
      (rows.map Row.name) tidy (ahead place List.mem_cons_self) here someMeasured
    rw [List.flatMap_cons, List.foldl_append, inductionHypothesis, isWritten,
      pageOfBlock_measurementsFor filing rows finding (within place List.mem_cons_self),
      List.flatMap_cons, List.append_assoc]
    · exact fun next member => within next (List.mem_cons_of_mem _ member)
    · exact ascendingLater
    · intro nowhere
      rw [isHere] at nowhere
      cases nowhere
    · intro next member
      rw [isHere, Ne, Option.some.injEq]
      exact Nat.ne_of_lt (first next member)

/-- The documents of all findings are the pages of the repositories, one after the other. -/
theorem documentsOf_tasks
    (filing : Filing)
    (repositories : List String)
    (rows : List Row)
    (finding : String → Row → Finding) :
    documentsOf filing repositories (rows.map Row.name)
      ((tasksOf repositories rows).map (fun task =>
        task.placed (finding task.repository task.subject))) =
      repositories.flatMap
        (fun repository => pageOf filing repository rows (finding repository)) := by
  rw [placed_tasksOf]
  by_cases noRow : rows = []
  · subst noRow
    have noMeasurement : repositories.zipIdx.flatMap (measurementsFor [] finding) = [] :=
      List.flatMap_eq_nil_iff.mpr fun _ _ => rfl
    rw [noMeasurement]
    exact (List.flatMap_eq_nil_iff.mpr fun _ _ => rfl).symm
  · have tidy : Draft.empty.Tidy := fun _ => rfl
    have course := written_places filing finding noRow (fun _ member => member)
      (pairwise_zipIdx repositories) tidy (fun _ _ => (Option.some_ne_none _).symm)
    refine course.trans ?_
    conv_rhs => rw [← List.zipIdx_map_fst 0 repositories, List.flatMap_map]
    rfl

end RepoVitals.Assembly

import RepoVitals.Assembly.Batches
import Mathlib.Data.List.Basic
/-!
The order of results.

Owns:
- the strict order of places, in which the pairs of repositories with rows or releases stand;
- `inOrder_of_perm`: results of pairs come into the order of the pairs, whatever order they came in;
- `inOrder_congr`: where no place is taken twice, the order in which results came does not matter.

A repository that is listed twice has two places, so no two pairs share a place.
-/

namespace RepoVitals.Assembly

open Placed

variable {α β : Type}

/-- The first result has an earlier place than the second. -/
def Placed.Precedes (first second : Placed α) : Prop :=
  first.repository < second.repository ∨
    first.repository = second.repository ∧ first.subject < second.subject

theorem Placed.before_iff (first second : Placed α) :
    first.before second = true ↔
      first.repository < second.repository ∨
        first.repository = second.repository ∧ first.subject ≤ second.subject := by
  simp [Placed.before]

theorem Placed.before_of_precedes {first second : Placed α} (precedes : first.Precedes second) :
    first.before second = true := by
  rw [before_iff]
  rcases precedes with earlier | ⟨same, earlier⟩
  · exact .inl earlier
  · exact .inr ⟨same, Nat.le_of_lt earlier⟩

theorem Placed.not_before_of_precedes
    {first second : Placed α}
    (precedes : first.Precedes second) :
    ¬second.before first = true := by
  rw [before_iff]
  unfold Precedes at precedes
  omega

theorem pairwise_inOrder (results : List (Placed α)) :
    (inOrder results).Pairwise (fun first second => first.before second = true) := by
  refine List.pairwise_mergeSort ?_ ?_ results
  · intro first second third
    simp only [Placed.before_iff]
    omega
  · intro first second
    simp only [Bool.or_eq_true, Placed.before_iff]
    omega

theorem inOrder_of_perm
    {results expected : List (Placed α)}
    (same : results.Perm expected)
    (placed : expected.Pairwise Placed.Precedes) :
    inOrder results = expected := by
  have sorted : (inOrder results).Perm expected := (List.mergeSort_perm _ _).trans same
  -- No two different results have the same place.
  have told : ∀ first ∈ expected, ∀ second ∈ expected,
      first.before second = true → second.before first = true → first = second := by
    apply List.Pairwise.forall_of_forall_of_flip
    · intro _ _ _ _
      rfl
    · exact placed.imp fun precedes _ after => absurd after (not_before_of_precedes precedes)
    · exact placed.imp fun precedes after _ => absurd after (not_before_of_precedes precedes)
  refine List.Perm.eq_of_pairwise ?_ (pairwise_inOrder results)
    (placed.imp before_of_precedes) sorted
  intro first second isFirst isSecond
  exact told first (sorted.mem_iff.mp isFirst) second isSecond

theorem batchOfChecks_singleton (check : Placed Document) :
    batchOfChecks [check] = Batch.ofDocuments [check.result] := by
  rw [batchOfChecks, inOrder, List.mergeSort_singleton, List.map_singleton]

/-- The positions of the repository and of the row or release. -/
def Placed.place (result : Placed α) : Nat × Nat := (result.repository, result.subject)

theorem Placed.precedes_of_before
    {first second : Placed α}
    (before : first.before second = true)
    (apart : first.place ≠ second.place) :
    first.Precedes second := by
  rw [before_iff] at before
  unfold Precedes
  by_cases same : first.repository = second.repository
  · have different : first.subject ≠ second.subject := by
      intro sameSubject
      apply apart
      simp only [place, same, sameSubject]
    omega
  · omega

theorem inOrder_congr
    {results results' : List (Placed α)}
    (same : results.Perm results')
    (unrepeated : (results'.map Placed.place).Nodup) :
    inOrder results = inOrder results' := by
  have sorted : (inOrder results').Perm results' := List.mergeSort_perm _ _
  apply inOrder_of_perm
  · exact same.trans sorted.symm
  · have apart : ((inOrder results').map Placed.place).Nodup :=
      (sorted.map Placed.place).nodup_iff.mpr unrepeated
    rw [List.nodup_iff_pairwise_ne, List.pairwise_map] at apart
    exact (pairwise_inOrder results').imp₂ (fun _ _ => precedes_of_before) apart

/-! ### Pairs -/

theorem pairwise_zipIdx (items : List α) :
    items.zipIdx.Pairwise (fun first second => first.2 < second.2) := by
  rw [← List.pairwise_map (f := Prod.snd) (R := fun first second => first < second),
    List.zipIdx_map_snd]
  exact List.pairwise_lt_range' 1

theorem pairwise_tasksOf (repositories : List String) (subjects : List α) :
    (tasksOf repositories subjects).Pairwise (fun first second =>
      first.repositoryIndex < second.repositoryIndex ∨
        first.repositoryIndex = second.repositoryIndex ∧
          first.subjectIndex < second.subjectIndex) := by
  rw [tasksOf, List.pairwise_flatMap]
  constructor
  · intro repository _
    rw [List.pairwise_map]
    exact (pairwise_zipIdx subjects).imp fun earlier => .inr ⟨rfl, earlier⟩
  · refine (pairwise_zipIdx repositories).imp fun earlier => ?_
    intro first isFirst second isSecond
    obtain ⟨_, _, rfl⟩ := List.mem_map.mp isFirst
    obtain ⟨_, _, rfl⟩ := List.mem_map.mp isSecond
    exact .inl earlier

theorem pairwise_placed
    (repositories : List String)
    (subjects : List α)
    (result : Task α → β) :
    ((tasksOf repositories subjects).map (fun task => task.placed (result task))).Pairwise
      Placed.Precedes :=
  List.pairwise_map.mpr (pairwise_tasksOf repositories subjects)

/-- The positions of the repository and of the row or release. -/
def Task.place (task : Task α) : Nat × Nat := (task.repositoryIndex, task.subjectIndex)

theorem nodup_places (repositories : List String) (subjects : List α) :
    ((tasksOf repositories subjects).map Task.place).Nodup := by
  rw [List.nodup_iff_pairwise_ne, List.pairwise_map]
  refine (pairwise_tasksOf repositories subjects).imp ?_
  intro first second earlier same
  have sameRepository := congrArg Prod.fst same
  have sameSubject := congrArg Prod.snd same
  simp only [Task.place] at sameRepository sameSubject
  omega

theorem mem_tasksOf
    {repositories : List String}
    {subjects : List α}
    {task : Task α}
    (member : task ∈ tasksOf repositories subjects) :
    task.repository ∈ repositories ∧ task.subject ∈ subjects := by
  obtain ⟨repository, isRepository, isTask⟩ := List.mem_flatMap.mp member
  obtain ⟨subject, isSubject, rfl⟩ := List.mem_map.mp isTask
  exact ⟨List.fst_mem_of_mem_zipIdx isRepository, List.fst_mem_of_mem_zipIdx isSubject⟩

end RepoVitals.Assembly

import RepoVitals.Catalogue.Row
import RepoVitals.Proofs.Search.Shape
/-!
Measures read back what they asked for.

Owns:
- the kind of result that each measure gives;
- `Measure.exists_extract`: an answer in the shape of a measure's own search is read without
  failure, whatever the numbers in it;
- the same for the second search of a threshold.
-/

namespace RepoVitals.Catalogue

open Search (Filter Request Response)

namespace Measure

/-- The kind of result that a measure gives. -/
def Yields : Measure → Extracted → Prop
  | .labels side _ _, .labels side' _ => side' = side
  | .coverage, .coverage snapshot => snapshot.branch = reportedBranch
  | .audit, .status _ _ => True
  | .total, .count _ | .sum _ _, .count _ | .averageDays _, .count _ => True
  | .contributors, .count _ | .repositoryFigure _, .count _ | .coveragePercent, .count _ => True
  | _, _ => False

/-- Only the coverage report gives a snapshot, and it gives nothing else. -/
theorem eq_coverage_of_yields
    {measure : Measure}
    {snapshot : Snapshot}
    (yields : measure.Yields (.coverage snapshot)) :
    measure = .coverage := by
  cases measure with
  | coverage => rfl
  | _ => exact yields.elim

theorem exists_snapshot
    {extracted : Extracted}
    (yields : coverage.Yields extracted) :
    ∃ snapshot, extracted = .coverage snapshot ∧ snapshot.branch = reportedBranch := by
  cases extracted with
  | coverage snapshot => exact ⟨snapshot, rfl, yields⟩
  | _ => exact yields.elim

/-- Only a row with a lookup gives labels. -/
theorem exists_labels_of_yields
    {measure : Measure}
    {side : Side}
    {counts : Ledger Int}
    (yields : measure.Yields (.labels side counts)) :
    ∃ name field, measure = .labels side name field := by
  cases measure with
  | labels side' name field =>
    cases yields
    exact ⟨name, field, rfl⟩
  | _ => exact yields.elim

theorem branch_mainSnapshot? (response : Response) :
    ((mainSnapshot? response).getD missingSnapshot).branch = reportedBranch := by
  unfold mainSnapshot?
  cases response.hits.find? isMainBranch <;> rfl

theorem exists_extract
    {measure : Measure}
    {index : String}
    {filter : Filter}
    {response : Response}
    (suits : (measure.request index filter).Suits response) :
    ∃ extracted, measure.extract response = .ok extracted ∧ measure.Yields extracted := by
  obtain ⟨⟨total, isTotal⟩, named⟩ := suits
  cases measure with
  | total =>
    refine ⟨.count total, ?_, trivial⟩
    rw [extract, Response.matchCount_eq isTotal, Outcome.ok_bind, Outcome.pure_eq]
  | audit =>
    rw [extract, Response.matchCount_eq isTotal, Outcome.ok_bind]
    split
    · exact ⟨_, rfl, trivial⟩
    · exact ⟨_, rfl, trivial⟩
  | sum name field =>
    obtain ⟨value, found, isFigure⟩ := named (name, .sum field) List.mem_cons_self
    obtain ⟨number, isNumber⟩ := Response.exists_numberUnder found isFigure
    refine ⟨.count number.truncate, ?_, trivial⟩
    rw [extract, Response.sum, isNumber, Outcome.ok_bind, Outcome.pure_eq]
  | averageDays field =>
    obtain ⟨value, found, isFigure⟩ := named (averageName, .average field) List.mem_cons_self
    obtain ⟨number, isNumber⟩ := Response.exists_numberUnder found isFigure
    rw [extract, Response.average, isNumber, Outcome.ok_bind, Outcome.ok_bind, Outcome.pure_eq]
    exact ⟨_, rfl, trivial⟩
  | contributors =>
    obtain ⟨value, found, isFigure⟩ :=
      named (contributorsName, .distinct "login.keyword") List.mem_cons_self
    obtain ⟨number, isNumber⟩ := Response.exists_numberUnder found isFigure
    refine ⟨.count number.truncate, ?_, trivial⟩
    rw [extract, Response.distinct, isNumber, Outcome.ok_bind, Outcome.ok_bind, Outcome.pure_eq]
  | repositoryFigure field => exact ⟨_, rfl, trivial⟩
  | coverage => exact ⟨_, rfl, branch_mainSnapshot? response⟩
  | coveragePercent => exact ⟨_, rfl, trivial⟩
  | labels side name field =>
    obtain ⟨value, found, lists⟩ := named (name, .terms field labelLimit) List.mem_cons_self
    obtain ⟨counts, areCounts⟩ := Response.exists_terms found lists
    refine ⟨.labels side counts, ?_, rfl⟩
    rw [extract, areCounts, Outcome.ok_bind, Outcome.pure_eq]

end Measure

theorem exists_shareOf
    {index : String}
    {filter : Filter}
    {response : Response}
    (percent : Nat)
    (suits : (Request.count index filter).Suits response) :
    ∃ share, shareOf percent response = .ok share := by
  obtain ⟨⟨total, isTotal⟩, _⟩ := suits
  rw [shareOf, Response.matchCount_eq isTotal, Outcome.ok_bind]
  exact ⟨_, rfl⟩

end RepoVitals.Catalogue

import RepoVitals.Pipeline
import RepoVitals.Text.Table
/-!
The summary of a run: one row for each family.

Owns the columns of the table and how their cells are written: numbers in groups of three digits and
times as clock readings, both at the right of their columns.
-/

namespace RepoVitals

open Text (Cell Table)

namespace Summary

/-- The heads of the columns. -/
def heads : List String :=
  ["family", "index", "repos", "documents", "requests", "written", "failed", "elapsed"]

/-- The numbers of a row, in order. -/
def numbers (report : FamilyReport) : List Nat :=
  [report.repositories, report.write.documents, report.write.total.requests,
    report.write.total.succeeded, report.write.total.failed]

/-- The row of a family. -/
def row (report : FamilyReport) : List Cell :=
  [.ofText .left report.family.name, .ofText .left report.write.index] ++
    (numbers report).map (fun number => .ofText .right (Text.grouped number)) ++
    [.ofText .right (Text.clock report.write.elapsed)]

/-- The table of a run. -/
def table (reports : List FamilyReport) : Table :=
  ⟨heads.map (.ofText .left), reports.map row⟩

end Summary

end RepoVitals

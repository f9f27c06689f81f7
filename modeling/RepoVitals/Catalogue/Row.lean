import RepoVitals.Catalogue.Measure
/-!
Catalogue rows: one metric each, as data.

Owns:
- the row (a name, an index, conditions, a measure and perhaps a threshold);
- its search for one repository, which always pins the repository first;
- thresholds, fixed or derived from a second search;
- the lookup that answers a label row for many repositories at once.
-/

namespace RepoVitals.Catalogue

open Search (Aggregation Filter Request Response)

/-- Where the line between green and red is drawn. -/
inductive Threshold where
  /-- At the same number every time. -/
  | fixed (value : Int)
  /-- At a percentage of the documents of the repository that a second search counts. -/
  | share (index : String) (conditions : Filter) (percent : Nat)

/-- A metric. -/
structure Row where
  name : String
  index : String
  conditions : Filter
  measure : Measure
  threshold : Option Threshold

/-- The documents of one repository. -/
def pinned (repository : String) : Filter :=
  Filter.all.matching Field.repository (.text repository)

namespace Row

/-- The documents of one repository that the row is about. -/
def filter (row : Row) (repository : String) : Filter :=
  (pinned repository).and row.conditions

/-- The row's search for one repository. -/
def request (row : Row) (repository : String) : Request :=
  row.measure.request row.index (row.filter repository)

/-- What the row reads from the answer to its search. -/
def extract (row : Row) (response : Response) : Outcome Extracted :=
  row.measure.extract response

end Row

/-- A percentage of a count, rounded. -/
def shareOf (percent : Nat) (response : Response) : Outcome Int := do
  let total ← response.matchCount
  return ((Binary64.ofInt total).multiply (Binary64.ofRatio false percent 100)).round

/-- The second search of a threshold for one repository, with the rule for its answer. -/
def Threshold.search? (repository : String) :
    Threshold → Option (Request × (Response → Outcome Int))
  | .fixed _ => none
  | .share index conditions percent =>
    some (Request.count index ((pinned repository).and conditions), shareOf percent)

/-- The light that a count and its threshold switch on. -/
inductive Light where
  | red
  | green
  deriving DecidableEq

/-- Red means over the threshold. -/
def Light.of (count threshold : Int) : Light :=
  if threshold < count then .red else .green

/-- The name of a light. -/
def Light.name : Light → String
  | .red => "red"
  | .green => "green"

/-! ### Lookups for many repositories -/

/-- The aggregation over repositories. -/
def repositoriesName : String := "repos"

/-- The aggregation over labels inside a repository. -/
def innerLabelsName : String := "labels"

/-- A row that one search can answer for many repositories: the row's conditions without the pinned
repository, and the labels of each repository. -/
structure Lookup where
  side : Side
  shared : Filter
  labelField : String

/-- The lookup of a row, if it counts labels. -/
def Row.lookup? (row : Row) : Option Lookup :=
  match row.measure with
  | .labels side _ field => some ⟨side, row.conditions, field⟩
  | _ => none

/-- The search of a lookup among these repositories.  There is a bucket for each of them. -/
def Lookup.request (lookup : Lookup) (index : String) (repositories : List String) : Request :=
  (Request.count index (lookup.shared.anyOf Field.repository repositories)).aggregating
    repositoriesName
    (.nestedTerms Field.repository (max 1 repositories.length)
      innerLabelsName lookup.labelField labelLimit)

end RepoVitals.Catalogue

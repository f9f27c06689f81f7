import RepoVitals.Search.Request
import RepoVitals.Search.Response
import RepoVitals.Text.Blank
/-!
Measures: what a catalogue row asks for and how it reads the answer.

Owns:
- the measured results;
- the kinds of measure, each of which shapes a search and reads back exactly what it asked for;
- the coverage snapshot of the main branch.
-/

namespace RepoVitals.Catalogue

open Json (Value)
open Search (Aggregation Filter Request Response)

/-! ### Fields, indexes and limits -/

/-- The field that names the repository. -/
def Field.repository : String := "repository.keyword"

/-- The field that holds the state of an issue or a pull request. -/
def Field.state : String := "state.keyword"

/-- The field that tells pull requests among the issues. -/
def Field.isPullRequest : String := "issue_pull_request"

/-- The field of the labels of issues. -/
def Field.issueLabel : String := "issue_labels.keyword"

/-- The field of the labels of pull requests. -/
def Field.pullLabel : String := "pull_labels.keyword"

/-- The index of the issues. -/
def Holding.issues : String := "github_issues"

/-- The index of the pull requests. -/
def Holding.pulls : String := "github_pulls"

/-- The index of the repositories. -/
def Holding.repositories : String := "github_repos"

/-- More labels than any repository has. -/
def labelLimit : Nat := 100000

/-! ### Results -/

/-- Labels are counted on issues and on pull requests. -/
inductive Side where
  | issues
  | pulls
  deriving DecidableEq

/-- A coverage report of the main branch. -/
structure Snapshot where
  branch : String
  commitId : String
  state : String
  coverage : Binary64
  url : String
  deriving DecidableEq

/-- What a measure reads from an answer. -/
inductive Extracted where
  | count (count : Int)
  | status (count : Int) (value : String)
  | labels (side : Side) (counts : Ledger Int)
  | coverage (snapshot : Snapshot)
  deriving DecidableEq

/-! ### Coverage -/

/-- The branch that coverage is reported for. -/
def reportedBranch : String := "main"

/-- A field of a report as text: values of another kind are written out, and `absent` stands for a
field that is missing or null. -/
def textOr (source : Value) (field absent : String) : String :=
  match source.field? field with
  | some (.text content) => content
  | some .null => absent
  | none => absent
  | some other => other.toText

/-- The coverage of a report, which may be a number or a text with blanks around it; anything else
is zero. -/
def coverageOf (source : Value) : Binary64 :=
  match source.field? "coverage" with
  | some (.number number) => number.toBinary64
  | some (.text content) =>
    (Binary64.ofText? (String.ofList (Text.trimBlanks content.toList))).getD Binary64.zero
  | _ => Binary64.zero

/-- The source is a report on the main branch. -/
def isMainBranch (source : Value) : Bool :=
  (source.field? "branch").bind Value.toText? = some reportedBranch

/-- The first report on the main branch. -/
def mainSnapshot? (response : Response) : Option Snapshot :=
  (response.hits.find? isMainBranch).map (fun source =>
    { branch := reportedBranch
      commitId := textOr source "commit_id" "none"
      state := textOr source "state" "none"
      coverage := coverageOf source
      url := textOr source "url" "none" })

/-- What is written down for a repository without a report. -/
def missingSnapshot : Snapshot :=
  ⟨reportedBranch, "none", "no-coverage", Binary64.zero, "none"⟩

/-! ### Measures -/

/-- The aggregation that a kind of measure averages under. -/
def averageName : String := "average_days"

/-- The aggregation that contributors are counted under. -/
def contributorsName : String := "contributors_unique_keyword_count"

/-- How a row measures. -/
inductive Measure where
  /-- The number of documents. -/
  | total
  /-- Whether there is any document at all. -/
  | audit
  /-- The sum of a field, under a name. -/
  | sum (name field : String)
  /-- The average of a field in days, rounded. -/
  | averageDays (field : String)
  /-- The number of different logins. -/
  | contributors
  /-- A field of the one document that describes the repository. -/
  | repositoryFigure (field : String)
  /-- The coverage report. -/
  | coverage
  /-- The coverage of the report, rounded to a whole percentage. -/
  | coveragePercent
  /-- The number of documents with each label of a field, under a name. -/
  | labels (side : Side) (name field : String)
  deriving DecidableEq

namespace Measure

/-- The fields of a repository's description that are asked for together. -/
def descriptionFields : List String :=
  ["forks_count", "stargazers_count", "subscribers_count", "size"]

/-- The fields of a coverage report. -/
def snapshotFields : List String := ["branch", "commit_id", "state", "coverage", "url"]

/-- The search of a measure among the documents that pass a filter. -/
def request (measure : Measure) (index : String) (filter : Filter) : Request :=
  let counted := Request.count index filter
  match measure with
  | .total | .audit => counted
  | .sum name field => counted.aggregating name (.sum field)
  | .averageDays field => counted.aggregating averageName (.average field)
  | .contributors => counted.aggregating contributorsName (.distinct "login.keyword")
  | .repositoryFigure _ => counted.showing 1 descriptionFields
  | .coverage | .coveragePercent => counted.showing 10 snapshotFields
  | .labels _ name field => counted.aggregating name (.terms field labelLimit)

/-- What the measure reads from the answer to its search. -/
def extract (measure : Measure) (response : Response) : Outcome Extracted :=
  match measure with
  | .total => return .count (← response.matchCount)
  | .audit => do
    let found ← response.matchCount
    return if 0 < found then .status 1 "non-compliant" else .status 0 "compliant"
  | .sum name _ => return .count (← response.sum name).truncate
  | .averageDays _ => return .count (← response.average averageName).round
  | .contributors => return .count (← response.distinct contributorsName)
  | .repositoryFigure field =>
    .ok (.count (((response.topHitField? field).bind Value.toInt64?).getD 0))
  | .coverage => .ok (.coverage ((mainSnapshot? response).getD missingSnapshot))
  | .coveragePercent =>
    .ok (.count (((mainSnapshot? response).map Snapshot.coverage).getD Binary64.zero).round)
  | .labels side name _ => return .labels side (← response.terms name)

end Measure

end RepoVitals.Catalogue

import RepoVitals.Assembly.Volley
import RepoVitals.Catalogue.Release
/-!
Measuring: what the cluster is asked about one repository, or about all of them at once.

Owns:
- the measurement of a row for a repository, with a second search if its threshold needs one;
- the check of a release for a repository, with six searches;
- lookups, each of which answers a label row for all repositories.

The searches of a measurement or a check are sent together and read in a fixed order.  The failure
of one says which row or release and which repository it was about.
-/

namespace RepoVitals.Assembly

open Catalogue (Check Extracted Lookup Readiness Release Row Side)
open Search (Request Response)

/-! ### One repository -/

/-- What a row measures for a repository, with the threshold that applies. -/
structure Finding where
  extracted : Extracted
  threshold : Option Int
  deriving DecidableEq

/-- The search of a row, and the second search of its threshold if it has one. -/
def findingVolley (row : Row) (repository : String) : Volley Finding :=
  let circumstance := Circumstance.measuring row.name repository
  let request := row.request repository
  match row.threshold with
  | none =>
    ⟨[request], fun answer => (row.extract answer).map (⟨·, none⟩), circumstance⟩
  | some (.fixed value) =>
    ⟨[request], fun answer => (row.extract answer).map (⟨·, some value⟩), circumstance⟩
  | some (.share index conditions percent) =>
    let second := Request.count index ((Catalogue.pinned repository).and conditions)
    let reading : Reading Finding 2 := fun answer secondAnswer => do
      let extracted ← row.extract answer
      return ⟨extracted, some (← Catalogue.shareOf percent secondAnswer)⟩
    ⟨[request, second], reading, circumstance⟩

/-- The six searches of a release. -/
def readinessVolley (release : Release) (repository : String) : Volley Readiness :=
  let searches := release.searches repository
  { searches :=
      [searches.issuesOpen, searches.autocutIssuesOpen, searches.issuesClosed,
        searches.pullsOpen, searches.pullsClosed, searches.releaseIssue]
    reading :=
      fun issuesOpen autocutIssuesOpen issuesClosed pullsOpen pullsClosed releaseIssue =>
        Catalogue.readinessOf
          ⟨issuesOpen, autocutIssuesOpen, issuesClosed, pullsOpen, pullsClosed, releaseIssue⟩
    circumstance := .checkingRelease release.version repository }

/-! ### All repositories -/

/-- The labels of one side by repository. -/
abbrev LabelTable := Ledger (Ledger Int)

/-- Ask the lookup of a row. -/
def lookUp (row : Row) (lookup : Lookup) (repositories : List String) : Inquiry LabelTable := do
  let answer ← (Inquiry.search (lookup.request row.index repositories)).within
    (.lookingUp row.name)
  answer.nestedTerms Catalogue.repositoriesName Catalogue.innerLabelsName

/-- A row with the answer to its lookup, if it has one. -/
structure PreparedRow where
  row : Row
  table : Option (Side × LabelTable)

/-- Ask the lookups of the rows, in order. -/
def prepare (useLookups : Bool) (repositories : List String) (rows : List Row) :
    Inquiry (List PreparedRow) :=
  Inquiry.forEach rows (fun row =>
    match if useLookups then row.lookup? else none with
    | none => return ⟨row, none⟩
    | some lookup => return ⟨row, some (lookup.side, ← lookUp row lookup repositories)⟩)

/-- What the lookup of a row has found for a repository already; a repository that it does not list
has no labels. -/
def PreparedRow.known? (prepared : PreparedRow) (repository : String) : Option Finding :=
  prepared.table.map (fun table =>
    ⟨.labels table.1 ((table.2.get? repository).getD Ledger.empty), none⟩)

end RepoVitals.Assembly

import RepoVitals.Catalogue.Rows
/-!
Release readiness: what is checked for every repository and every release on the watchlist.

Owns:
- releases and the watchlist that applies unless another one is configured;
- the six searches of a check, in the order in which they are sent;
- the tracking issue, with its address and its owners in ascending order;
- the result of a check.
-/

namespace RepoVitals.Catalogue

open Json (Value View)
open Search (Filter Request Response)

/-- A release on the watchlist.  The version has no `v` in front. -/
structure Release where
  version : String
  state : String
  deriving DecidableEq

/-- The state of a release that does not give one. -/
def usualState : String := "open"

/-- The releases that are watched by default. -/
def watchlist : List Release :=
  [⟨"3.0.0", "open"⟩, ⟨"2.17.0", "closed"⟩, ⟨"2.18.0", "closed"⟩, ⟨"2.19.0", "open"⟩,
    ⟨"1.3.19", "closed"⟩, ⟨"1.3.20", "closed"⟩]

namespace Release

/-- The release that a value describes; a state that is left out is the default one. -/
def ofValue? (value : Value) : Option Release := do
  match ← View.ofValues.record? ["version", "state"] value with
  | [some version, state] =>
    some ⟨← version.toText?, ← View.orElse Value.toText? usualState state⟩
  | _ => none

/-- The label of the issues and pull requests of the release. -/
def label (release : Release) : String := "v" ++ release.version

/-- Issues of a repository in a state, labelled with the release. -/
def issuesOf (release : Release) (repository state : String) : Filter :=
  (((pinned repository).matching Field.isPullRequest (.boolean false)).matching
    Field.state (.text state)).matching Field.issueLabel (.text release.label)

/-- Pull requests of a repository in a state, labelled with the release. -/
def pullsOf (release : Release) (repository state : String) : Filter :=
  ((pinned repository).matching Field.state (.text state)).matching
    Field.pullLabel (.text release.label)

/-- The issue of a repository that tracks the release, found by its title. -/
def trackingIssue (release : Release) (repository : String) : Filter :=
  ((pinned repository).matching "title.keyword"
    (.text ("[RELEASE] Release version " ++ release.version))).matching
    Field.isPullRequest (.boolean false)

end Release

/-- The aggregation that lists the owners. -/
def ownersName : String := "issue_assignees"

/-- The six searches of a check, or what was read from their answers. -/
structure Check (α β : Type) where
  issuesOpen : α
  autocutIssuesOpen : α
  issuesClosed : α
  pullsOpen : α
  pullsClosed : α
  releaseIssue : β
  deriving DecidableEq

/-- The searches for one repository and one release. -/
def Release.searches (release : Release) (repository : String) : Check Request Request where
  issuesOpen := Request.count Holding.issues (release.issuesOf repository "open")
  autocutIssuesOpen :=
    Request.count Holding.issues
      ((release.issuesOf repository "open").matching Field.issueLabel (.text "autocut"))
  issuesClosed := Request.count Holding.issues (release.issuesOf repository "closed")
  pullsOpen := Request.count Holding.pulls (release.pullsOf repository "open")
  pullsClosed := Request.count Holding.pulls (release.pullsOf repository "closed")
  releaseIssue :=
    ((Request.count Holding.issues (release.trackingIssue repository)).showing 1
      ["html_url"]).aggregating ownersName (.terms "issue_assignees.keyword" 50)

/-- A tracking issue. -/
structure TrackingIssue where
  url : Option String
  owners : List String
  deriving DecidableEq

/-- Everything measured for one repository and one release. -/
abbrev Readiness := Check Int TrackingIssue

/-- The tracking issue in an answer; an address that is empty is none. -/
def trackingIssueOf (response : Response) : Outcome TrackingIssue := do
  let url := ((response.topHitField? "html_url").bind Value.toText?).filter (· ≠ "")
  return ⟨url, (← response.terms ownersName).keys⟩

/-- What six answers say about a release. -/
def readinessOf (answers : Check Response Response) : Outcome Readiness := do
  return {
    issuesOpen := ← answers.issuesOpen.matchCount
    autocutIssuesOpen := ← answers.autocutIssuesOpen.matchCount
    issuesClosed := ← answers.issuesClosed.matchCount
    pullsOpen := ← answers.pullsOpen.matchCount
    pullsClosed := ← answers.pullsClosed.matchCount
    releaseIssue := ← trackingIssueOf answers.releaseIssue }

end RepoVitals.Catalogue

import RepoVitals.Calendar.Moment
import RepoVitals.Catalogue.Release
import RepoVitals.Identity.DocumentId
import RepoVitals.Json.Printer
/-!
Documents: what lands in an index.

Owns:
- the four kinds of document;
- the natural key and the id of a document, which are read off the document itself;
- the fields of its body, in their fixed order with the id first, and the body as JSON text.

Zeros are written.  A text or threshold that a metric does not have is left out; a tracking issue
that nobody filed is written as null.
-/

namespace RepoVitals

open Catalogue (Family Light Readiness Release Snapshot)
open Json (Value)

/-- What all documents of one repository in one run share. -/
structure Origin where
  bucket : Calendar.Bucket
  currentDate : String
  repository : String
  deriving DecidableEq

/-- What a document reports. -/
inductive Report where
  | metric (family : Family) (name : String) (count : Int) (note : Option String)
      (threshold : Option Int)
  | label (name : String) (issues pulls : Int)
  | coverage (snapshot : Snapshot)
  | release (release : Release) (readiness : Readiness)
  deriving DecidableEq

namespace Report

/-- The family that a report belongs to. -/
def family : Report → Family
  | .metric family .. => family
  | .label .. => .labels
  | .coverage _ => .coverage
  | .release .. => .releases

/-- The name under which a report is filed. -/
def name : Report → String
  | .metric _ name .. => name
  | .label name .. => name
  | .coverage snapshot => snapshot.branch
  | .release watched _ => watched.version

/-- A field that is written only if it has a value. -/
def optionalField (name : String) (value : Option Value) : List (String × Value) :=
  match value with
  | none => []
  | some found => [(name, found)]

/-- The fields of a report. -/
def fields : Report → List (String × Value)
  | .metric _ name count note threshold =>
    [("metric_name", .text name), ("metric_count", .integer count)] ++
      optionalField "metric_string_value" (note.map .text) ++
      optionalField "threshold_count" (threshold.map .integer) ++
      optionalField "threshold_status"
        (threshold.map (fun limit => .text (Light.of count limit).name))
  | .label name issues pulls =>
    [("label_name", .text name), ("label_issue_count", .integer issues),
      ("label_pull_count", .integer pulls)]
  | .coverage snapshot =>
    [("branch", .text snapshot.branch), ("commit_id", .text snapshot.commitId),
      ("state", .text snapshot.state), ("coverage", .number (.float snapshot.coverage)),
      ("url", .text snapshot.url)]
  | .release watched readiness =>
    [("release_version", .text watched.version), ("version", .text watched.version),
      ("release_state", .text watched.state),
      ("issues_open", .integer readiness.issuesOpen),
      ("autocut_issues_open", .integer readiness.autocutIssuesOpen),
      ("issues_closed", .integer readiness.issuesClosed),
      ("pulls_open", .integer readiness.pullsOpen),
      ("pulls_closed", .integer readiness.pullsClosed),
      ("release_owners", Value.texts readiness.releaseIssue.owners),
      ("release_owner_exists", .boolean (!readiness.releaseIssue.owners.isEmpty)),
      ("release_issue", Value.optionalText readiness.releaseIssue.url),
      ("release_issue_exists", .boolean readiness.releaseIssue.url.isSome)]

end Report

/-- A document. -/
structure Document where
  origin : Origin
  report : Report
  deriving DecidableEq

namespace Document

/-- The natural key of a document. -/
def key (document : Document) : Identity.NaturalKey where
  family := document.report.family.name
  name := document.report.name
  bucket := document.origin.bucket
  repository := document.origin.repository

/-- The id of a document. -/
def id (document : Document) : String :=
  Identity.documentId document.key

/-- The fields of the body. -/
def fields (document : Document) : List (String × Value) :=
  [("id", .text document.id), ("current_date", .text document.origin.currentDate),
    ("repository", .text document.origin.repository)] ++ document.report.fields

/-- The body as JSON text. -/
def body (document : Document) : String :=
  (Value.object document.fields).toText

end Document

end RepoVitals

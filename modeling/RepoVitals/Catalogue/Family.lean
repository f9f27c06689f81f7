import RepoVitals.Calendar.Date
import RepoVitals.Failure
/-!
Metric families: what is measured together and where its documents land.

Owns the five families, their names, and the buckets and index names of a date.

Every family has daily ids.  The coverage family keeps a month of days in one index, whose name ends
in the month.
-/

namespace RepoVitals.Catalogue

open Calendar (Bucket Date)

/-- A family of metrics. -/
inductive Family where
  | general
  | labels
  | health
  | releases
  | coverage
  deriving DecidableEq

namespace Family

/-- All families, in the order in which they run. -/
def all : List Family := [.general, .labels, .health, .releases, .coverage]

/-- The name that goes into ids, settings and messages. -/
def name : Family → String
  | .general => "general-metrics"
  | .labels => "label-metrics"
  | .health => "repo-health"
  | .releases => "release-metrics"
  | .coverage => "codecov-metrics"

/-- The family of this name. -/
def ofName? (name : String) : Option Family :=
  all.find? (fun family => family.name = name)

/-- The family of this name, or the failure that lists the names there are. -/
def ofName (name : String) : Outcome Family :=
  match ofName? name with
  | some family => .ok family
  | none => .error (.ofCause (.unknownFamily name (all.map Family.name)))

/-- The bucket that goes into the ids. -/
def documentBucket (_family : Family) (date : Date) : Bucket := .day date

/-- The bucket that goes into the index name, for a family whose index rolls over. -/
def rolloverBucket : Family → Date → Option Bucket
  | .coverage, date => some (.month date)
  | _, _ => none

/-- The index name without its bucket. -/
def baseIndex : Family → String
  | .general => "opensearch_general_metrics"
  | .labels => "opensearch_label_metrics"
  | .health => "opensearch_repo_health_metrics"
  | .releases => "opensearch_release_metrics"
  | .coverage => "opensearch-codecov-metrics"

/-- The index that the documents of a date land in. -/
def index (family : Family) (date : Date) : String :=
  match family.rolloverBucket date with
  | some bucket => family.baseIndex ++ "-" ++ bucket.text
  | none => family.baseIndex

end Family

end RepoVitals.Catalogue

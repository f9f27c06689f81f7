import RepoVitals.Catalogue.Family
import RepoVitals.Catalogue.Row
/-!
The rows of the families.

Owns the catalogue: thirteen general rows, two label rows, fifteen health rows and one coverage row.
The release family has no rows; its checks are keyed by repository and release.
-/

namespace RepoVitals.Catalogue

open Search (Filter)

/-! ### Conditions -/

/-- Issues, without the pull requests among them. -/
def issues : Filter := Filter.all.matching Field.isPullRequest (.boolean false)

/-- Issues that are open. -/
def issuesStillOpen : Filter := issues.matching Field.state (.text "open")

/-- Issues that are closed. -/
def issuesNowClosed : Filter := issues.matching Field.state (.text "closed")

/-- Pull requests that are open. -/
def pullsStillOpen : Filter := Filter.all.matching Field.state (.text "open")

/-- Pull requests that were merged. -/
def pullsNowMerged : Filter := Filter.all.matching "merged" (.boolean true)

/-- Open issues that still wait for a first look. -/
def issuesAwaitingTriage : Filter := issuesStillOpen.matching Field.issueLabel (.text "untriaged")

/-- Nobody has commented. -/
def uncommented (filter : Filter) : Filter := filter.matching "comments" (.integer 0)

/-- The day on which documents turn thirty days old ends here. -/
def turningDayEnd : String := "now-29d/d"

/-- The day on which documents turn thirty days old starts here. -/
def turningDayStart : String := "now-30d/d"

/-- Created thirty days ago or earlier. -/
def stale (filter : Filter) : Filter := filter.range "created_at" none (some turningDayEnd)

/-- Created in the one-day window that has just turned thirty. -/
def turningThirty (filter : Filter) : Filter :=
  filter.range "created_at" (some turningDayStart) (some turningDayEnd)

/-- Accounts whose comments say nothing about people. -/
def automaticCommenters : List String :=
  ["opensearch-trigger-bot[bot]", "dependabot[bot]", "mend-for-github-com[bot]",
    "opensearch-ci-bot"]

/-- Pull requests of people. -/
def humanPulls : Filter := Filter.all.excluding "user_login.keyword" automaticCommenters

/-- Audit findings of the last day. -/
def auditFindings : Filter :=
  (Filter.all.matching "audit_status.keyword" (.text "noncompliant")).range
    "current_date" (some "now-1d") (some "now")

/-! ### Rows -/

/-- A row without a threshold. -/
def measured (name index : String) (conditions : Filter) (measure : Measure) : Row :=
  ⟨name, index, conditions, measure, none⟩

/-- A row that counts documents. -/
def counted (name index : String) (conditions : Filter) : Row :=
  measured name index conditions .total

/-- A row that counts documents of an index and compares them with a percentage of others there. -/
def compared (name index : String) (conditions : Filter) (base : Filter) (percent : Nat) : Row :=
  ⟨name, index, conditions, .total, some (.share index base percent)⟩

/-- Comments, reactions and the state of issues and pull requests. -/
def generalRows : List Row :=
  [counted "Untriaged Issues" Holding.issues issuesAwaitingTriage,
    counted "Uncommented Pull Requests" Holding.pulls (uncommented pullsStillOpen),
    counted "Unlabelled Pull Requests" Holding.pulls (pullsStillOpen.missing Field.pullLabel),
    counted "Unlabelled Issues" Holding.issues (issuesStillOpen.missing Field.issueLabel),
    counted "Pull Requests Merged" Holding.pulls pullsNowMerged,
    counted "Open Pull Requests" Holding.pulls pullsStillOpen,
    counted "Open Issues" Holding.issues issuesStillOpen,
    counted "Closed Issues" Holding.issues issuesNowClosed,
    counted "Created Issues" Holding.issues issues,
    measured "Issue Comments" Holding.issues issues (.sum "total_comments_sum" "comments"),
    measured "Pull Comments" Holding.pulls humanPulls (.sum "total_comments_sum" "comments"),
    measured "Issue Positive Reactions" Holding.issues issues
      (.sum "total_reactions_sum" "reactions_plus"),
    measured "Issue Negative Reactions" Holding.issues issues
      (.sum "total_reactions_sum" "reactions_minus")]

/-- Labels of open issues and open pull requests. -/
def labelRows : List Row :=
  [measured "Issue Labels" Holding.issues issuesStillOpen
      (.labels .issues "label_issues" Field.issueLabel),
    measured "Pull Labels" Holding.pulls pullsStillOpen
      (.labels .pulls "pull_issues" Field.pullLabel)]

/-- The index of the coverage reports. -/
def Holding.coverage : String := "codecov_coverage"

/-- Metrics with a traffic light, and the ages and sizes of a community. -/
def healthRows : List Row :=
  [⟨"GitHub Audit", "github_audit", auditFindings, .audit, some (.fixed 0)⟩,
    compared "Untriaged issues" Holding.issues issuesAwaitingTriage issuesStillOpen 5,
    compared "Untriaged issues greater than 30 days" Holding.issues (stale issuesAwaitingTriage)
      (turningThirty issuesStillOpen) 3,
    compared "Issues older than 30 days and not responded" Holding.issues
      (stale (uncommented issuesStillOpen)) (uncommented (turningThirty issuesStillOpen)) 2,
    compared "Pull Requests not responded" Holding.pulls (uncommented pullsStillOpen)
      (uncommented pullsStillOpen) 2,
    compared "Pull Requests older than 30 days and not responded" Holding.pulls
      (stale (uncommented pullsStillOpen)) (turningThirty (uncommented pullsStillOpen)) 2,
    measured "CodeCov Coverage Percentage" Holding.coverage Filter.all .coveragePercent,
    measured "Average Issue Open Time: Measured in Days" Holding.issues issuesStillOpen
      (.averageDays "time_open_days"),
    measured "Average Issue Close Time: Measured in Days" Holding.issues issuesNowClosed
      (.averageDays "time_to_close_days"),
    measured "Average Pull Request Merge Time: Measured in Days" Holding.pulls pullsNowMerged
      (.averageDays "time_to_merge_days"),
    measured "Contributors" "github_contributors" Filter.all .contributors,
    measured "Number of forks" Holding.repositories Filter.all (.repositoryFigure "forks_count"),
    measured "Number of stars" Holding.repositories Filter.all
      (.repositoryFigure "stargazers_count"),
    measured "Number of subscribers" Holding.repositories Filter.all
      (.repositoryFigure "subscribers_count"),
    measured "Repo size in megabytes (MB)" Holding.repositories Filter.all
      (.repositoryFigure "size")]

/-- Coverage reports. -/
def coverageRows : List Row :=
  [measured "Code Coverage" Holding.coverage Filter.all .coverage]

/-- The rows of a family, in order. -/
def Family.rows : Family → List Row
  | .general => generalRows
  | .labels => labelRows
  | .health => healthRows
  | .releases => []
  | .coverage => coverageRows

/-- The row of this name in a family. -/
def Family.row? (family : Family) (name : String) : Option Row :=
  family.rows.find? (fun row => row.name = name)

end RepoVitals.Catalogue

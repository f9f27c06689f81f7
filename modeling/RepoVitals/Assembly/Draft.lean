import RepoVitals.Assembly.Measuring
import RepoVitals.Batch
/-!
Drafts: the documents of a family, written from what was measured.

Owns:
- the order of results, by repository and row or release, whatever order they came in;
- the documents of a repository, where the two sides of a label meet in one document.
-/

namespace RepoVitals.Assembly

open Catalogue (Family Side)

/-! ### Order -/

/-- A result with its place: the positions of its repository and of its row or release. -/
structure Placed (α : Type) where
  repository : Nat
  subject : Nat
  result : α
  deriving DecidableEq

/-- The first result stands before the second or beside it. -/
def Placed.before {α : Type} (first second : Placed α) : Bool :=
  first.repository < second.repository ||
    (first.repository == second.repository && first.subject ≤ second.subject)

/-- Results in the order of repositories and of rows or releases. -/
def inOrder {α : Type} (results : List (Placed α)) : List (Placed α) :=
  results.mergeSort Placed.before

/-! ### Documents -/

/-- Counts of one label on issues and on pull requests. -/
structure LabelCounts where
  issues : Int
  pulls : Int
  deriving DecidableEq

/-- Write the count of a label on one side. -/
def LabelCounts.set (counts : LabelCounts) (side : Side) (count : Int) : LabelCounts :=
  match side with
  | .issues => { counts with issues := count }
  | .pulls => { counts with pulls := count }

/-- Take entries of one side into the labels seen so far, one after the other; the other side of a
new label is zero. -/
def mergeEntries (labels : Ledger LabelCounts) (side : Side) (entries : List (String × Int)) :
    Ledger LabelCounts :=
  entries.foldl
    (fun held entry =>
      held.insert entry.1 (((held.get? entry.1).getD ⟨0, 0⟩).set side entry.2))
    labels

/-- Take the counts of one side into the labels seen so far. -/
def mergeLabels (labels : Ledger LabelCounts) (side : Side) (counts : Ledger Int) :
    Ledger LabelCounts :=
  mergeEntries labels side counts.entries

/-- What is filed while the documents of a family are written. -/
structure Filing where
  family : Family
  bucket : Calendar.Bucket
  currentDate : String

/-- The origin of the documents of a repository. -/
def Filing.origin (filing : Filing) (repository : String) : Origin :=
  ⟨filing.bucket, filing.currentDate, repository⟩

/-- The document of a finding that is complete by itself. -/
def documentOf? (filing : Filing) (repository rowName : String) (finding : Finding) :
    Option Document :=
  match finding.extracted with
  | .count count =>
    some ⟨filing.origin repository,
      .metric filing.family rowName count none finding.threshold⟩
  | .status count value =>
    some ⟨filing.origin repository,
      .metric filing.family rowName count (some value) finding.threshold⟩
  | .coverage snapshot => some ⟨filing.origin repository, .coverage snapshot⟩
  | .labels _ _ => none

/-- One document for each label. -/
def labelDocuments (filing : Filing) (repository : String) (labels : Ledger LabelCounts) :
    List Document :=
  labels.entries.map (fun entry =>
    ⟨filing.origin repository, .label entry.1 entry.2.issues entry.2.pulls⟩)

/-- Documents being written: those that are done, last first, the repository they have come to, and
the labels of that repository. -/
structure Draft where
  reversed : List Document
  repository : Option Nat
  labels : Ledger LabelCounts

namespace Draft

/-- Nothing written. -/
def empty : Draft := ⟨[], none, Ledger.empty⟩

/-- Write the documents of the labels that have been gathered for the current repository. -/
def flush (filing : Filing) (repositories : List String) (draft : Draft) : Draft :=
  match draft.repository with
  | none => draft
  | some index =>
    { draft with
      reversed :=
        (labelDocuments filing (repositories.getD index "") draft.labels).reverse ++
          draft.reversed
      labels := Ledger.empty }

/-- Go to a repository; if it is another one, the labels of the one before are written. -/
def enter (filing : Filing) (repositories : List String) (draft : Draft) (index : Nat) : Draft :=
  if draft.repository = some index then draft
  else { draft.flush filing repositories with repository := some index }

/-- Take in a measurement: labels are gathered, anything else is a document at once. -/
def add (filing : Filing) (repositories rowNames : List String) (draft : Draft)
    (measurement : Placed Finding) : Draft :=
  let entered := draft.enter filing repositories measurement.repository
  match measurement.result.extracted with
  | .labels side counts => { entered with labels := mergeLabels entered.labels side counts }
  | _ =>
    let document := documentOf? filing (repositories.getD measurement.repository "")
      (rowNames.getD measurement.subject "") measurement.result
    { entered with reversed := document.toList ++ entered.reversed }

end Draft

/-- The documents of measurements that stand in order. -/
def documentsOf (filing : Filing) (repositories rowNames : List String)
    (measurements : List (Placed Finding)) : List Document :=
  let draft := measurements.foldl (Draft.add filing repositories rowNames) Draft.empty
  (draft.flush filing repositories).reversed.reverse

end RepoVitals.Assembly

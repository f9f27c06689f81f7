import RepoVitals.Document
import RepoVitals.Proofs.Binary64.Integer
import RepoVitals.Proofs.Json.Reading
/-!
Documents read back from their bodies.

Owns:
- the reports whose numbers are integers of 64 bits, and the reports that a family makes;
- the field that holds the name of a report, which its family tells;
- `Document.body_reads_back`: a body is read as an object in which the id, the date, the repository
  and the name stand as the document has them.
-/

namespace RepoVitals

open Catalogue (Family)
open Json (Number Value)

theorem IsInt64.fits {value : Int} (small : IsInt64 value) : (Number.integer value).Fits := by
  have greatest : Binary64.greatestInt64 ≤ Json.Numeral.greatestUInt64 := by decide
  exact ⟨small.1, small.2.trans greatest⟩

/-- The field of a document of a family that holds the name. -/
def Catalogue.Family.nameField : Family → String
  | .general | .health => "metric_name"
  | .labels => "label_name"
  | .coverage => "branch"
  | .releases => "release_version"

namespace Report

/-- The numbers of a report are integers of 64 bits. -/
def IsSmall : Report → Prop
  | .metric _ _ count _ threshold => IsInt64 count ∧ ∀ limit ∈ threshold, IsInt64 limit
  | .label _ issues pulls => IsInt64 issues ∧ IsInt64 pulls
  | .coverage _ => True
  | .release _ readiness =>
    IsInt64 readiness.issuesOpen ∧ IsInt64 readiness.autocutIssuesOpen ∧
      IsInt64 readiness.issuesClosed ∧ IsInt64 readiness.pullsOpen ∧ IsInt64 readiness.pullsClosed

/-- A report of the kind that a family makes. -/
def IsOf (family : Family) : Report → Prop
  | .metric family' .. => family' = family ∧ (family = .general ∨ family = .health)
  | .label .. => family = .labels
  | .coverage _ => family = .coverage
  | .release .. => family = .releases

variable {family : Family} {report : Report}

theorem family_eq (isOf : report.IsOf family) : report.family = family := by
  cases report with
  | metric => exact isOf.1
  | label => exact isOf.symm
  | coverage => exact isOf.symm
  | release => exact isOf.symm

theorem legibleItems_texts (room : Nat) (contents : List String) :
    Value.LegibleItems room (contents.map .text) := by
  induction contents with
  | nil => trivial
  | cons content rest inductionHypothesis => exact ⟨trivial, inductionHypothesis⟩

theorem legible_optionalText (room : Nat) (content : Option String) :
    (Value.optionalText content).Legible room := by
  cases content <;> trivial

theorem legibleFields (room : Nat) (small : report.IsSmall) :
    Value.LegibleFields (room + 1) report.fields := by
  cases report with
  | metric family name count note threshold =>
    obtain ⟨smallCount, smallThreshold⟩ := small
    cases note with
    | none =>
      cases threshold with
      | none => exact ⟨trivial, smallCount.fits, trivial⟩
      | some limit =>
        exact ⟨trivial, smallCount.fits, (smallThreshold limit rfl).fits, trivial, trivial⟩
    | some content =>
      cases threshold with
      | none => exact ⟨trivial, smallCount.fits, trivial, trivial⟩
      | some limit =>
        exact ⟨trivial, smallCount.fits, trivial, (smallThreshold limit rfl).fits, trivial, trivial⟩
  | label name issues pulls => exact ⟨trivial, small.1.fits, small.2.fits, trivial⟩
  | coverage snapshot => exact ⟨trivial, trivial, trivial, trivial, trivial, trivial⟩
  | release watched readiness =>
    obtain ⟨issuesOpen, autocutIssuesOpen, issuesClosed, pullsOpen, pullsClosed⟩ := small
    exact ⟨trivial, trivial, trivial, issuesOpen.fits, autocutIssuesOpen.fits, issuesClosed.fits,
      pullsOpen.fits, pullsClosed.fits, ⟨Nat.succ_pos room, legibleItems_texts _ _⟩, trivial,
      legible_optionalText _ _, trivial, trivial⟩

end Report

namespace Document

variable {document : Document}

theorem unrepeated_fields (document : Document) : Unrepeated document.fields := by
  obtain ⟨origin, report⟩ := document
  cases report with
  | metric family name count note threshold =>
    cases note <;> cases threshold <;>
      simp [Unrepeated, fields, Report.fields, Report.optionalField]
  | label name issues pulls => simp [Unrepeated, fields, Report.fields]
  | coverage snapshot => simp [Unrepeated, fields, Report.fields]
  | release watched readiness => simp [Unrepeated, fields, Report.fields]

/-- A field of the report is found in the document. -/
theorem valueUnder?_fields_of_mem
    {key : String}
    {value : Value}
    (isField : (key, value) ∈ document.report.fields) :
    valueUnder? key document.fields = some value :=
  (valueUnder?_eq_some_iff (unrepeated_fields document)).mpr (List.mem_append_right _ isField)

theorem legible_fields (small : document.report.IsSmall) :
    (Value.object document.fields).Legible Json.containerLimit :=
  ⟨by decide, trivial, trivial, trivial, Report.legibleFields 125 small⟩

theorem name_of_fields {family : Family} (isOf : document.report.IsOf family) :
    valueUnder? family.nameField document.fields = some (.text document.report.name) := by
  obtain ⟨origin, report⟩ := document
  cases report with
  | metric family name count note threshold =>
    obtain ⟨rfl, rfl | rfl⟩ := isOf <;>
      simp [fields, Report.fields, Family.nameField, valueUnder?, Report.name]
  | _ =>
    cases isOf
    simp [fields, Report.fields, Family.nameField, valueUnder?, Report.name]

/-- The body of a label document tells its counts. -/
theorem counts_of_body_eq
    {origin : Origin}
    {name : String}
    {issues pulls issues' pulls' : Int}
    (same : body ⟨origin, .label name issues pulls⟩ = body ⟨origin, .label name issues' pulls'⟩) :
    issues = issues' ∧ pulls = pulls' := by
  have trees := Value.written_eq_of_toText_eq same
  simp only [fields, Report.fields, List.cons_append, List.nil_append, Value.written,
    Value.writtenFields, Json.Written.object.injEq, List.cons.injEq, Prod.mk.injEq] at trees
  obtain ⟨-, -, -, -, ⟨-, sameIssues⟩, ⟨-, samePulls⟩, -⟩ := trees
  exact ⟨Number.written_integer_injective sameIssues, Number.written_integer_injective samePulls⟩

/-- The body of a document of a family is read as an object that has the id, the date, the
repository and the name of the document in their fields. -/
theorem body_reads_back
    {family : Family}
    (small : document.report.IsSmall)
    (isOf : document.report.IsOf family) :
    ∃ fields, Value.ofText? document.body = some (.object fields) ∧
      valueUnder? "id" fields = some (.text document.id) ∧
      valueUnder? "current_date" fields = some (.text document.origin.currentDate) ∧
      valueUnder? "repository" fields = some (.text document.origin.repository) ∧
      valueUnder? family.nameField fields = some (.text document.report.name) := by
  obtain ⟨read, isRead, texts⟩ :=
    Value.ofText?_toText_object (legible_fields small) (unrepeated_fields document)
  refine ⟨read, isRead, texts _ _ ?_, texts _ _ ?_, texts _ _ ?_, texts _ _ ?_⟩
  · simp [fields, valueUnder?]
  · simp [fields, valueUnder?]
  · simp [fields, valueUnder?]
  · exact name_of_fields isOf

end Document

end RepoVitals

import RepoVitals.Proofs.Assembly.Inquiry
import RepoVitals.Proofs.Assembly.Order
import RepoVitals.Proofs.Search.Figures
import RepoVitals.Assembly.Batches
/-!
Results of inquiries, whatever the executor answers.

Owns:
- `Inquiry.Warrants`: if an executor brings an inquiry to a result, the result has a property; one
  rule for each way of building an inquiry, and one for volleys;
- the rows of a family, told by what they measure;
- what measurements, lookups and checks come to: findings and documents of the family, in whose
  numbers nothing is greater than 64 bits.

An executor may fail any search, so nothing is said about whether there is a result.
-/

namespace RepoVitals.Assembly

open Catalogue (Extracted Family Measure Release Row Threshold)
open Search (Request Response)

variable {α β : Type} {executor : Executor}

namespace Inquiry

/-- Whatever was asked before: if the executor brings the inquiry to a result, it has the
property. -/
def Warrants (executor : Executor) (inquiry : Inquiry α) (property : α → Prop) : Prop :=
  ∀ asked result, (inquiry.run executor asked).2 = .ok result → property result

namespace Warrants

theorem pure {result : α} {property : α → Prop} (holds : property result) :
    (Pure.pure result : Inquiry α).Warrants executor property := by
  intro asked other isResult
  cases isResult
  exact holds

theorem bind
    {inquiry : Inquiry α}
    {next : α → Inquiry β}
    {between : α → Prop}
    {property : β → Prop}
    (first : inquiry.Warrants executor between)
    (second : ∀ result, between result → (next result).Warrants executor property) :
    (inquiry >>= next).Warrants executor property := by
  intro asked final isFinal
  have holds := first asked
  rw [run_bind] at isFinal
  cases course : inquiry.run executor asked with
  | mk askedThen outcome =>
    rw [course] at isFinal holds
    cases outcome with
    | ok result => exact second result (holds result rfl) askedThen final isFinal
    | error failure => cases isFinal

theorem within
    {inquiry : Inquiry α}
    {property : α → Prop}
    (warrants : inquiry.Warrants executor property)
    (circumstance : Circumstance) :
    (inquiry.within circumstance).Warrants executor property := by
  intro asked result isResult
  have holds := warrants asked result
  rw [run_within] at isResult
  cases course : (inquiry.run executor asked).2 with
  | ok found =>
    rw [course] at isResult holds
    exact holds isResult
  | error failure =>
    rw [course] at isResult
    cases isResult

theorem ofOutcome
    {outcome : Outcome α}
    {property : α → Prop}
    (holds : ∀ result, outcome = .ok result → property result) :
    (Inquiry.ofOutcome outcome).Warrants executor property := by
  intro asked result isResult
  cases outcome with
  | ok found =>
    cases isResult
    exact holds _ rfl
  | error failure => cases isResult

theorem search
    {request : Request}
    {property : Response → Prop}
    (answered : ∀ asked response, executor asked request = .ok response → property response) :
    (Inquiry.search request).Warrants executor property := by
  intro asked response isResponse
  exact ofOutcome (answered asked) _ response isResponse

/-- One inquiry after the other: every result comes from one of them. -/
theorem forEach
    {items : List β}
    {inquiryOf : β → Inquiry α}
    {property : α → Prop}
    (each : ∀ item ∈ items, (inquiryOf item).Warrants executor property) :
    (Inquiry.forEach items inquiryOf).Warrants executor
      (fun results => ∀ result ∈ results, property result) := by
  induction items with
  | nil => exact pure (fun _ member => absurd member List.not_mem_nil)
  | cons item rest inductionHypothesis =>
    refine bind (each item List.mem_cons_self) fun result holds => ?_
    refine bind (inductionHypothesis fun later member => each later (List.mem_cons_of_mem _ member))
      fun results hold => ?_
    refine pure fun found member => ?_
    rcases List.mem_cons.mp member with isFirst | later
    · exact isFirst ▸ holds
    · exact hold found later

end Warrants

end Inquiry

/-! ### Volleys -/

/-- The executor gives no other answers than these. -/
def Executor.AnswersOnly (executor : Executor) (accepted : Response → Prop) : Prop :=
  ∀ asked request response, executor asked request = .ok response → accepted response

/-- Whatever accepted answers are read, a result has the property. -/
def Reading.Warrants (accepted : Response → Prop) (property : α → Prop) :
    (count : Nat) → Reading α count → Prop
  | 0, outcome => ∀ result, outcome = .ok result → property result
  | count + 1, reading => ∀ answer, accepted answer →
    Reading.Warrants accepted property count (reading answer)

theorem warrants_ofSearches
    {accepted : Response → Prop}
    {property : α → Prop}
    (answers : executor.AnswersOnly accepted) :
    ∀ {searches : List Request} {reading : Reading α searches.length},
      Reading.Warrants accepted property searches.length reading →
      (Inquiry.ofSearches searches reading).Warrants executor property
  | [], _, warrants => Inquiry.Warrants.ofOutcome warrants
  | request :: _, _, warrants =>
    (Inquiry.Warrants.search (fun asked response => answers asked request response)).bind
      (fun answer accepts => warrants_ofSearches answers (warrants answer accepts))

theorem warrants_volley
    {accepted : Response → Prop}
    {property : α → Prop}
    {volley : Volley α}
    (answers : executor.AnswersOnly accepted)
    (warrants : Reading.Warrants accepted property volley.searches.length volley.reading) :
    volley.inquiry.Warrants executor property :=
  (warrants_ofSearches answers warrants).within volley.circumstance

/-! ### Rows of a family -/

/-- What is measured this way belongs to the family. -/
def MeasureIsOf (family : Family) : Measure → Prop
  | .labels .. => family = .labels
  | .coverage => family = .coverage
  | _ => family = .general ∨ family = .health

/-- A threshold that is fixed is an integer of 64 bits. -/
def ThresholdIsSmall : Option Threshold → Prop
  | some (.fixed value) => IsInt64 value
  | _ => True

/-- The row belongs to the family. -/
structure RowIsOf (family : Family) (row : Row) : Prop where
  measure : MeasureIsOf family row.measure
  threshold : ThresholdIsSmall row.threshold

instance (family : Family) : (measure : Measure) → Decidable (MeasureIsOf family measure)
  | .labels .. => inferInstanceAs (Decidable (family = .labels))
  | .coverage => inferInstanceAs (Decidable (family = .coverage))
  | .total | .audit | .sum .. | .averageDays _ | .contributors | .repositoryFigure _
  | .coveragePercent => inferInstanceAs (Decidable (family = .general ∨ family = .health))

instance : (threshold : Option Threshold) → Decidable (ThresholdIsSmall threshold)
  | some (.fixed value) => inferInstanceAs (Decidable (IsInt64 value))
  | some (.share ..) | none => inferInstanceAs (Decidable True)

theorem rowIsOf_of_mem_rows (family : Family) : ∀ row ∈ family.rows, RowIsOf family row := by
  have belong : ∀ row ∈ family.rows,
      MeasureIsOf family row.measure ∧ ThresholdIsSmall row.threshold := by
    cases family <;> decide
  exact fun row isRow => ⟨(belong row isRow).1, (belong row isRow).2⟩

/-! ### Findings -/

/-- What a row of the family finds. -/
def ExtractedIsOf (family : Family) : Extracted → Prop
  | .labels .. => family = .labels
  | .coverage _ => family = .coverage
  | _ => family = .general ∨ family = .health

/-- A finding of the family with small numbers. -/
structure FindingIsOf (family : Family) (finding : Finding) : Prop where
  kind : ExtractedIsOf family finding.extracted
  small : finding.extracted.IsSmall
  threshold : ∀ limit ∈ finding.threshold, IsInt64 limit

variable {family : Family} {row : Row}

theorem extractedIsOf_of_yields
    {measure : Measure}
    {extracted : Extracted}
    (isOf : MeasureIsOf family measure)
    (yields : measure.Yields extracted) :
    ExtractedIsOf family extracted := by
  cases extracted with
  | labels side counts =>
    obtain ⟨name, field, rfl⟩ := Measure.exists_labels_of_yields yields
    exact isOf
  | coverage snapshot =>
    rw [Measure.eq_coverage_of_yields yields] at isOf
    exact isOf
  | count figure =>
    cases measure with
    | labels | coverage => exact yields.elim
    | _ => exact isOf
  | status figure value =>
    cases measure with
    | audit => exact isOf
    | _ => exact yields.elim

theorem findingIsOf_of_extract
    {response : Response}
    {extracted : Extracted}
    {limit : Option Int}
    (isOf : RowIsOf family row)
    (small : response.IsSmall)
    (isExtracted : row.extract response = .ok extracted)
    (limited : ∀ value ∈ limit, IsInt64 value) :
    FindingIsOf family ⟨extracted, limit⟩ := by
  obtain ⟨yields, smallExtracted⟩ := Measure.extract_spec small isExtracted
  exact ⟨extractedIsOf_of_yields isOf.measure yields, smallExtracted, limited⟩

/-- The finding of one search, with a limit that was known before. -/
theorem warrants_singleReading
    {limit : Option Int}
    (isOf : RowIsOf family row)
    (limited : ∀ value ∈ limit, IsInt64 value) :
    Reading.Warrants Response.IsSmall (FindingIsOf family) 1
      (fun answer => (row.extract answer).map (⟨·, limit⟩)) := by
  intro answer small finding isFinding
  obtain ⟨extracted, isExtracted, rfl⟩ := Outcome.exists_of_map_eq_ok isFinding
  exact findingIsOf_of_extract isOf small isExtracted limited

theorem warrants_findingVolley
    (answers : executor.AnswersOnly Response.IsSmall)
    (isOf : RowIsOf family row)
    (repository : String) :
    (findingVolley row repository).inquiry.Warrants executor (FindingIsOf family) := by
  have smallThreshold := isOf.threshold
  refine warrants_volley answers ?_
  unfold findingVolley
  generalize row.threshold = threshold at smallThreshold ⊢
  rcases threshold with _ | value | ⟨index, conditions, percent⟩
  · exact warrants_singleReading isOf (fun _ none => by cases none)
  · refine warrants_singleReading isOf fun limit isLimit => ?_
    cases isLimit
    exact smallThreshold
  · intro answer small second smallSecond finding isFinding
    obtain ⟨extracted, isExtracted, isFinding⟩ := Outcome.exists_of_bind_eq_ok isFinding
    obtain ⟨share, isShare, isFinding⟩ := Outcome.exists_of_bind_eq_ok isFinding
    cases isFinding
    refine findingIsOf_of_extract isOf small isExtracted fun limit isLimit => ?_
    cases isLimit
    exact Catalogue.isInt64_shareOf isShare

/-! ### Lookups -/

/-- A row of the family, in whose table there are labels of the family. -/
structure PreparedIsOf (family : Family) (prepared : PreparedRow) : Prop where
  row : RowIsOf family prepared.row
  table : ∀ table ∈ prepared.table, family = .labels ∧
    ∀ entry ∈ table.2.entries, Search.Response.Counted entry.2

theorem warrants_lookUp (row : Row) (lookup : Catalogue.Lookup) (repositories : List String) :
    (lookUp row lookup repositories).Warrants executor
      (fun table => ∀ entry ∈ table.entries, Search.Response.Counted entry.2) := by
  have any : ((Inquiry.search (lookup.request row.index repositories)).within
      (.lookingUp row.name)).Warrants executor (fun _ => True) := fun _ _ _ => trivial
  refine any.bind fun answer _ => ?_
  exact Inquiry.Warrants.ofOutcome fun tables areTables =>
    Search.Response.counted_nestedTerms areTables

theorem eq_labels_of_lookup?
    {lookup : Catalogue.Lookup}
    (isOf : RowIsOf family row)
    (isLookup : row.lookup? = some lookup) :
    family = .labels := by
  have measure := isOf.measure
  unfold Row.lookup? at isLookup
  split at isLookup
  · rename_i isMeasure
    rw [isMeasure] at measure
    exact measure
  · cases isLookup

theorem warrants_prepare
    (useLookups : Bool)
    (repositories : List String)
    {rows : List Row}
    (each : ∀ row ∈ rows, RowIsOf family row) :
    (prepare useLookups repositories rows).Warrants executor
      (fun prepared => ∀ row ∈ prepared, PreparedIsOf family row) := by
  refine Inquiry.Warrants.forEach fun row isRow => ?_
  have isOf := each row isRow
  split
  · exact Inquiry.Warrants.pure ⟨isOf, fun _ none => by cases none⟩
  · rename_i lookup isLookup
    have isLookup : row.lookup? = some lookup := by
      split at isLookup
      · exact isLookup
      · cases isLookup
    refine (warrants_lookUp row lookup repositories).bind fun table counted => ?_
    refine Inquiry.Warrants.pure ⟨isOf, fun found isFound => ?_⟩
    cases isFound
    exact ⟨eq_labels_of_lookup? isOf isLookup, counted⟩

theorem findingIsOf_of_known
    {prepared : PreparedRow}
    {repository : String}
    {finding : Finding}
    (isOf : PreparedIsOf family prepared)
    (known : prepared.known? repository = some finding) :
    FindingIsOf family finding := by
  obtain ⟨table, isTable, rfl⟩ := Option.map_eq_some_iff.mp known
  obtain ⟨isLabels, counted⟩ := isOf.table table isTable
  refine ⟨isLabels, ?_, fun _ none => by cases none⟩
  show Search.Response.Counted ((table.2.get? repository).getD Ledger.empty)
  cases found : table.2.get? repository with
  | none => exact Search.Response.counted_empty
  | some counts => exact counted (repository, counts) (Ledger.get?_eq_some_iff.mp found)

/-! ### Pairs -/

theorem findingIsOf_of_mem_knownOf
    {repositories : List String}
    {prepared : List PreparedRow}
    (each : ∀ row ∈ prepared, PreparedIsOf family row) :
    ∀ placed ∈ knownOf repositories prepared, FindingIsOf family placed.result := by
  intro placed member
  obtain ⟨task, isTask, isKnown⟩ := List.mem_filterMap.mp member
  obtain ⟨finding, known, rfl⟩ := Option.map_eq_some_iff.mp isKnown
  exact findingIsOf_of_known (each task.subject (mem_tasksOf isTask).2) known

theorem warrants_measurements
    (answers : executor.AnswersOnly Response.IsSmall)
    (repositories : List String)
    {prepared : List PreparedRow}
    (each : ∀ row ∈ prepared, PreparedIsOf family row) :
    (Volley.inquireAll (measurementsOf repositories prepared)).Warrants executor
      (fun measured => ∀ placed ∈ measured, FindingIsOf family placed.result) := by
  refine Inquiry.Warrants.forEach fun volley isVolley => ?_
  obtain ⟨task, isTask, rfl⟩ := List.mem_map.mp isVolley
  have isOf := each task.subject (mem_tasksOf (List.mem_filter.mp isTask).1).2
  have warrants := warrants_findingVolley answers isOf.row task.repository
  intro asked placed isPlaced
  rw [Task.measurement, Volley.run_map] at isPlaced
  obtain ⟨finding, isFinding, rfl⟩ := Outcome.exists_of_map_eq_ok isPlaced
  exact warrants asked finding isFinding

end RepoVitals.Assembly

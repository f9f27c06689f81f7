import RepoVitals.Proofs.Assembly.Findings
/-!
One assembly at two moments.

Owns:
- documents with another current date, which have the same ids and otherwise the same fields;
- `Batch.Restamped`: two batches with the same ids whose bodies differ in their current dates alone;
- `restamped_of_assembled` and `error_of_moment`: assembled at another moment, a family comes to the
  batch with that moment stamped on it, and fails with the same failure.
-/

namespace RepoVitals

open Json (Value)

/-! ### Documents -/

/-- The document as it is at another moment. -/
def Document.dated (currentDate : String) (document : Document) : Document :=
  { document with origin := { document.origin with currentDate := currentDate } }

@[simp] theorem Document.id_dated (currentDate : String) (document : Document) :
    (document.dated currentDate).id = document.id :=
  rfl

/-- The bodies are those of objects that differ in their current dates alone, if they differ. -/
def DifferInDate (body body' : String) : Prop :=
  ∃ id rest currentDate currentDate',
    body = (Value.object (("id", id) :: ("current_date", .text currentDate) :: rest)).toText ∧
    body' = (Value.object (("id", id) :: ("current_date", .text currentDate') :: rest)).toText

theorem Document.differInDate_dated (currentDate : String) (document : Document) :
    DifferInDate document.body (document.dated currentDate).body :=
  ⟨_, _, _, _, rfl, rfl⟩

/-! ### Batches -/

/-- The two batches have the same ids, and their bodies differ in their current dates alone. -/
def Batch.Restamped (batch batch' : Batch) : Prop :=
  List.Forall₂ (Alongside DifferInDate) batch.entries batch'.entries

theorem Batch.restamped_ofDocuments (currentDate : String) (documents : List Document) :
    Restamped (ofDocuments documents)
      (ofDocuments (documents.map (Document.dated currentDate))) := by
  apply Ledger.forall₂_ofList
  simp only [List.map_map, List.forall₂_map_left_iff, List.forall₂_map_right_iff]
  refine List.forall₂_same.mpr fun document _ => ⟨rfl, ?_⟩
  exact document.differInDate_dated currentDate

theorem Batch.Restamped.ids_eq {batch batch' : Batch} (restamped : Restamped batch batch') :
    batch'.documents.map Entry.id = batch.documents.map Entry.id := by
  simp only [documents, List.map_map]
  exact (map_eq_map_of_forall₂ restamped fun _ _ here => here.1).symm

theorem Outcome.error_map_iff
    {α β : Type}
    {outcome : Outcome α}
    {change : α → β}
    {failure : Failure} :
    outcome.map change = .error failure ↔ outcome = .error failure := by
  cases outcome <;> simp [Except.map]

theorem Outcome.error_bind_iff
    {α β : Type}
    {outcome : Outcome α}
    {next : α → Outcome β}
    {failure : Failure} :
    outcome >>= next = .error failure ↔
      outcome = .error failure ∨ ∃ result, outcome = .ok result ∧ next result = .error failure := by
  cases outcome <;> simp [bind, Except.bind]

end RepoVitals

namespace RepoVitals.Assembly

open Calendar (Moment)
open Catalogue (Family Release Row)
open Search (Request Response)

variable {answer : Request → Outcome Response}

/-! ### Findings -/

theorem pageOf_dated
    (filing : Filing)
    (currentDate repository : String)
    (rows : List Row)
    (finding : Row → Finding) :
    pageOf { filing with currentDate := currentDate } repository rows finding =
      (pageOf filing repository rows finding).map (Document.dated currentDate) := by
  have single (row : Row) :
      documentOf? { filing with currentDate := currentDate } repository row.name (finding row) =
        (documentOf? filing repository row.name (finding row)).map
          (Document.dated currentDate) := by
    unfold documentOf?
    cases (finding row).extracted <;> rfl
  rw [pageOf, pageOf, List.map_append, List.map_filterMap]
  simp only [single, labelDocuments, List.map_map]
  rfl

theorem documentsBy_moment (plan : Plan) (family : Family) (occasion : Occasion) (runAt : Moment) :
    documentsBy answer plan family { occasion with runAt := runAt } =
      (documentsBy answer plan family occasion).map (Document.dated runAt.text) := by
  have rowPages (family : Family) (finding : String → Row → Finding) :
      pages ({ occasion with runAt := runAt }.filing family) occasion.repositories family.rows
          finding =
        (pages (occasion.filing family) occasion.repositories family.rows finding).map
          (Document.dated runAt.text) := by
    rw [pages, pages, List.map_flatMap]
    exact List.flatMap_congr fun repository _ =>
      pageOf_dated (occasion.filing family) runAt.text repository family.rows (finding repository)
  cases family with
  | releases =>
    simp only [documentsBy, checkPages, List.map_flatMap, List.map_map]
    rfl
  | general => exact rowPages .general _
  | labels => exact rowPages .labels _
  | health => exact rowPages .health _
  | coverage => exact rowPages .coverage _

theorem restamped_of_assembled
    {plan : Plan}
    {family : Family}
    {occasion : Occasion}
    {batch : Batch}
    (assembled : (assemble plan family occasion).resultBy answer = .ok batch)
    (runAt : Moment) :
    ∃ batch', (assemble plan family { occasion with runAt := runAt }).resultBy answer = .ok batch' ∧
      batch.Restamped batch' := by
  obtain ⟨told, rfl⟩ := assembled_iff.mp assembled
  refine ⟨_, assembled_iff.mpr ⟨told, rfl⟩, ?_⟩
  rw [documentsBy_moment plan family occasion runAt]
  exact Batch.restamped_ofDocuments _ _

/-! ### Failures -/

/-- Where each item fails alike, so do all of them one after the other. -/
theorem Inquiry.error_forEach_congr
    {α β γ : Type}
    {items : List β}
    {inquiryOf : β → Inquiry α}
    {inquiryOf' : β → Inquiry γ}
    (alike : ∀ item ∈ items, ∀ failure, (inquiryOf item).resultBy answer = .error failure ↔
      (inquiryOf' item).resultBy answer = .error failure)
    (failure : Failure) :
    (forEach items inquiryOf).resultBy answer = .error failure ↔
      (forEach items inquiryOf').resultBy answer = .error failure := by
  induction items with
  | nil => exact ⟨nofun, nofun⟩
  | cons item rest inductionHypothesis =>
    have later := inductionHypothesis fun other member =>
      alike other (List.mem_cons_of_mem _ member)
    have here := alike item List.mem_cons_self
    rw [resultBy_forEach_cons, resultBy_forEach_cons]
    rw [Outcome.error_bind_iff, Outcome.error_bind_iff, here failure]
    simp only [Outcome.error_map_iff, later]
    refine or_congr_right ?_
    cases first : (inquiryOf item).resultBy answer with
    | error cause => simp [(alike item List.mem_cons_self cause).mp first]
    | ok result =>
      cases second : (inquiryOf' item).resultBy answer with
      | error cause => simp [(alike item List.mem_cons_self cause).mpr second] at first
      | ok result' => simp

theorem error_of_moment
    {plan : Plan}
    {family : Family}
    {occasion : Occasion}
    {failure : Failure}
    (fails : (assemble plan family occasion).resultBy answer = .error failure)
    (runAt : Moment) :
    (assemble plan family { occasion with runAt := runAt }).resultBy answer = .error failure := by
  have rowsFail (family : Family)
      (fails : (assembleRows plan family family.rows occasion).resultBy answer = .error failure) :
      (assembleRows plan family family.rows { occasion with runAt := runAt }).resultBy answer =
        .error failure := by
    rw [assembleRows, Inquiry.resultBy_bind, Outcome.error_bind_iff] at fails ⊢
    simp only [Inquiry.resultBy_map, Outcome.error_map_iff] at fails ⊢
    exact fails
  cases family with
  | releases =>
    have checks : (assembleChecks plan occasion).resultBy answer = .error failure := fails
    show (assembleChecks plan _).resultBy answer = .error failure
    rw [assembleChecks, Inquiry.resultBy_map, Outcome.error_map_iff, Volley.inquireAll, checksOf,
      Inquiry.forEach_map] at checks ⊢
    refine (Inquiry.error_forEach_congr (fun task _ failure => ?_) failure).mp checks
    have check (filing : Filing) : (task.check filing).inquiry.resultBy answer = .error failure ↔
        (readinessVolley task.subject task.repository).resultBy answer = .error failure := by
      show (task.check filing).resultBy answer = _ ↔ _
      rw [Task.check, Volley.resultBy_map, Outcome.error_map_iff]
    rw [check, check]
  | general => exact rowsFail .general fails
  | labels => exact rowsFail .labels fails
  | health => exact rowsFail .health fails
  | coverage => exact rowsFail .coverage fails

end RepoVitals.Assembly

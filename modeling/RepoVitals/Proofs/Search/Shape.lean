import RepoVitals.Proofs.Steps
import RepoVitals.Search.Request
import RepoVitals.Search.Response
/-!
Answers in the shape that was asked for.

Owns:
- the shape of an answer to each kind of aggregation, and to a whole search;
- the readers on answers of that shape, none of which fails.

A search asks for a total always.  Nothing is said about hits, since no reader insists on one.
-/

namespace RepoVitals.Search

open Json (Value)

/-! ### Shapes -/

/-- The key of a bucket can be written as a text. -/
def HasKey (bucket : Value) : Prop :=
  (∃ key, bucket.field? "key" = some (.text key)) ∨
    (∃ key, bucket.field? "key" = some (.number key)) ∨
    ∃ key, bucket.field? "key" = some (.boolean key)

/-- A bucket with a key and a number of documents. -/
def IsBucket (bucket : Value) : Prop :=
  HasKey bucket ∧ ∃ count, (bucket.field? "doc_count").bind Value.toInt64? = some count

/-- An aggregation that lists buckets of a kind. -/
def ListsBuckets (IsOfKind : Value → Prop) (aggregation : Value) : Prop :=
  ∃ buckets, aggregation.field? "buckets" = some (.array buckets) ∧
    ∀ bucket ∈ buckets, IsOfKind bucket

/-- An aggregation with a single value, which is null where there was nothing to aggregate. -/
def IsFigure (aggregation : Value) : Prop :=
  aggregation.field? "value" = some .null ∨
    ∃ number, aggregation.field? "value" = some (.number number)

/-- What is said about an aggregation is an answer to it. -/
def Aggregation.Suits : Aggregation → Value → Prop
  | .sum _ | .average _ | .distinct _ => IsFigure
  | .terms _ _ => ListsBuckets IsBucket
  | .nestedTerms _ _ innerName _ _ =>
    ListsBuckets (fun bucket => HasKey bucket ∧
      ∃ inner, bucket.field? innerName = some inner ∧ ListsBuckets IsBucket inner)

/-- The answer has a total, and under the name of each aggregation an answer to it. -/
def Request.Suits (request : Request) (response : Response) : Prop :=
  (∃ total, response.total = some total) ∧
    ∀ named ∈ request.aggregations, ∃ value,
      response.aggregations.get? named.1 = some value ∧ named.2.Suits value

/-! ### Readers -/

/-- What was written item by item is read item by item. -/
theorem mapM_map_eq
    {α β γ : Type}
    {items : List α}
    {write : α → β}
    {read : β → Outcome γ}
    {value : α → γ}
    (reads : ∀ item ∈ items, read (write item) = .ok (value item)) :
    (items.map write).mapM read = .ok (items.map value) := by
  rw [mapM_eq_ok_iff, List.forall₂_map_left_iff, List.forall₂_map_right_iff, List.forall₂_same]
  exact reads

namespace Response

variable {response : Response} {aggregation : Value}

theorem exists_keyOf (name : String) {bucket : Value} (hasKey : HasKey bucket) :
    ∃ key, keyOf name bucket = .ok key := by
  unfold keyOf
  rcases hasKey with ⟨key, isKey⟩ | ⟨key, isKey⟩ | ⟨key, isKey⟩
  all_goals
    rw [isKey]
    exact ⟨_, rfl⟩

theorem exists_countOf (name : String) {bucket : Value} (isBucket : IsBucket bucket) :
    ∃ entry, countOf name bucket = .ok entry := by
  obtain ⟨hasKey, count, isCount⟩ := isBucket
  obtain ⟨key, isKey⟩ := exists_keyOf name hasKey
  refine ⟨(key, count), ?_⟩
  rw [countOf, isKey, Outcome.ok_bind, isCount]

theorem bucketsOf_eq
    (name : String)
    {buckets : List Value}
    (areBuckets : aggregation.field? "buckets" = some (.array buckets)) :
    bucketsOf name aggregation = .ok buckets := by
  rw [bucketsOf, areBuckets]
  rfl

theorem exists_countsOf (name : String) (lists : ListsBuckets IsBucket aggregation) :
    ∃ counts, countsOf name aggregation = .ok counts := by
  obtain ⟨buckets, areBuckets, each⟩ := lists
  obtain ⟨entries, areEntries⟩ := exists_mapM_eq_ok_iff.mpr fun bucket member =>
    exists_countOf name (each bucket member)
  refine ⟨Ledger.ofList entries, ?_⟩
  rw [countsOf, bucketsOf_eq name areBuckets, Outcome.ok_bind, areEntries, Outcome.ok_bind]

theorem aggregation_eq
    {name : String}
    (found : response.aggregations.get? name = some aggregation) :
    response.aggregation name = .ok aggregation := by
  rw [Response.aggregation, found]

theorem exists_terms
    {name : String}
    (found : response.aggregations.get? name = some aggregation)
    (lists : ListsBuckets IsBucket aggregation) :
    ∃ counts, response.terms name = .ok counts := by
  rw [terms, aggregation_eq found, Outcome.ok_bind]
  exact exists_countsOf name lists

theorem exists_numberUnder
    {name : String}
    (found : response.aggregations.get? name = some aggregation)
    (isFigure : IsFigure aggregation) :
    ∃ number, response.numberUnder name = .ok number := by
  rw [numberUnder, aggregation_eq found, Outcome.ok_bind]
  rcases isFigure with isNull | ⟨number, isNumber⟩
  · rw [isNull]
    exact ⟨_, rfl⟩
  · rw [isNumber]
    exact ⟨_, rfl⟩

theorem matchCount_eq {total : Int} (isTotal : response.total = some total) :
    response.matchCount = .ok total := by
  rw [matchCount, isTotal]

end Response

end RepoVitals.Search

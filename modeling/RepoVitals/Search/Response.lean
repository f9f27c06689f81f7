import RepoVitals.Failure
import RepoVitals.Json.View
import RepoVitals.Json.Printer
/-!
Search answers: what the cluster says, typed just enough to be read.

Owns:
- the answer as a record of the total, the sources of the hits and the named aggregations;
- reading that record from JSON;
- the readers, each of which either finds what it is asked for or says what is malformed.

No reader makes a number up, with one exception: a single-valued aggregation over no documents is
null in the answer and zero here.
-/

namespace RepoVitals.Search

open Json (Value View)

/-- The answer to a search. -/
structure Response where
  total : Option Int
  hits : List Value
  aggregations : Ledger Value

/-! ### Reading the record -/

/-- A total: an integer, or an object with the integer under `value`. -/
def total? {τ : Type} (view : View τ) (source : τ) : Option Int := do
  let whole ← view.value? source
  match view.fields? source with
  | some fields =>
    match fields.filter (fun field => field.1 = "value") with
    | [field] => view.integer? Binary64.leastInt64 Binary64.greatestInt64 field.2
    | _ => none
  | none => whole.toInt64?

/-- A hit: its source, or null if it has none. -/
def hit? {τ : Type} (view : View τ) (source : τ) : Option Value := do
  match ← view.record? ["_source"] source with
  | [found] => View.orElse view.value? .null found
  | _ => none

/-- The total and the hits. -/
def hits? {τ : Type} (view : View τ) (source : τ) : Option (Option Int × List Value) := do
  match ← view.record? ["total", "hits"] source with
  | [totalPart, hitsPart] =>
    let total ← view.optional (total? view) totalPart
    let hits ← View.orElse
      (fun part => do (← view.items? part).mapM (hit? view)) [] hitsPart
    some (total, hits)
  | _ => none

/-- The named aggregations. -/
def aggregations? {τ : Type} (view : View τ) (source : τ) : Option (Ledger Value) := do
  let fields ← view.fields? source
  let values ← fields.mapM (fun field => (view.value? field.2).map (fun value => (field.1, value)))
  some (Ledger.ofList values)

namespace Response

/-- The answer that a tree describes. -/
def read? {τ : Type} (view : View τ) (source : τ) : Option Response := do
  match ← view.record? ["hits", "aggregations"] source with
  | [hitsPart, aggregationsPart] =>
    let (total, hits) ← View.orElse (hits? view) (none, []) hitsPart
    let aggregations ← View.orElse (aggregations? view) Ledger.empty aggregationsPart
    some ⟨total, hits, aggregations⟩
  | _ => none

/-- The answer that a value describes. -/
def ofValue? (value : Value) : Option Response := read? View.ofValues value

/-- The answer that a text describes. -/
def ofText? (text : String) : Option Response := do
  let whole ← Json.Written.ofText? text
  read? View.ofWritten (Json.containerLimit, whole)

/-! ### Readers -/

/-- How many documents match. -/
def matchCount (response : Response) : Outcome Int :=
  match response.total with
  | some total => .ok total
  | none => malformed .totalMissing

/-- The aggregation of this name. -/
def aggregation (response : Response) (name : String) : Outcome Value :=
  match response.aggregations.get? name with
  | some found => .ok found
  | none => malformed (.aggregationMissing name)

/-- The value of a single-valued aggregation; null stands for zero. -/
def numberUnder (response : Response) (name : String) : Outcome Binary64 := do
  let found ← response.aggregation name
  match found.field? "value" with
  | none => malformed (.valueMissing name)
  | some .null => .ok Binary64.zero
  | some value =>
    match value.toBinary64? with
    | some number => .ok number
    | none => malformed (.valueNotNumber name value.toText)

/-- A sum. -/
def sum (response : Response) (name : String) : Outcome Binary64 :=
  response.numberUnder name

/-- An average; one that is not finite is zero. -/
def average (response : Response) (name : String) : Outcome Binary64 := do
  let value ← response.numberUnder name
  .ok (if value.isFinite then value else Binary64.zero)

/-- A number of distinct values, without its fraction. -/
def distinct (response : Response) (name : String) : Outcome Int := do
  let value ← response.numberUnder name
  .ok value.truncate

/-- The buckets of an aggregation. -/
def bucketsOf (name : String) (aggregation : Value) : Outcome (List Value) :=
  match (aggregation.field? "buckets").bind Value.toItems? with
  | some buckets => .ok buckets
  | none => malformed (.bucketsMissing name)

/-- The key of a bucket as a text; numbers and truth values are written out. -/
def keyOf (name : String) (bucket : Value) : Outcome String :=
  match bucket.field? "key" with
  | some (.text key) => .ok key
  | some (.number key) => .ok (Value.number key).toText
  | some (.boolean key) => .ok (Value.boolean key).toText
  | _ => malformed (.keyUnusable name)

/-- The key and the number of documents of a bucket. -/
def countOf (name : String) (bucket : Value) : Outcome (String × Int) := do
  let key ← keyOf name bucket
  match (bucket.field? "doc_count").bind Value.toInt64? with
  | some count => .ok (key, count)
  | none => malformed (.countMissing key name)

/-- The counts of an aggregation by key; of several buckets with one key the last one stays. -/
def countsOf (name : String) (aggregation : Value) : Outcome (Ledger Int) := do
  let buckets ← bucketsOf name aggregation
  let counts ← buckets.mapM (countOf name)
  .ok (Ledger.ofList counts)

/-- The counts of a terms aggregation. -/
def terms (response : Response) (name : String) : Outcome (Ledger Int) := do
  countsOf name (← response.aggregation name)

/-- The key and the inner counts of an outer bucket. -/
def innerCountsOf (outer inner : String) (bucket : Value) : Outcome (String × Ledger Int) := do
  let key ← keyOf outer bucket
  match bucket.field? inner with
  | some aggregation => .ok (key, ← countsOf inner aggregation)
  | none => malformed (.innerMissing key outer inner)

/-- The counts of a nested terms aggregation by outer and inner key; of several outer buckets with
one key the last one stays as a whole. -/
def nestedTerms (response : Response) (outer inner : String) :
    Outcome (Ledger (Ledger Int)) := do
  let buckets ← bucketsOf outer (← response.aggregation outer)
  let counts ← buckets.mapM (innerCountsOf outer inner)
  .ok (Ledger.ofList counts)

/-- A field of the source of the first hit. -/
def topHitField? (response : Response) (field : String) : Option Value :=
  response.hits.head?.bind (fun source => source.field? field)

end Response

end RepoVitals.Search

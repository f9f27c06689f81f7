import RepoVitals.Search.Request
import RepoVitals.Proofs.Json.Fields
/-!
The parts of a search body.

Owns what stands in the body of a search under the names of the search language: the query with its
three lists of clauses, and the aggregations.
-/

namespace RepoVitals.Search

open Json (Value)

/-! ### Clauses -/

/-- The clauses in a place that may be left out. -/
def clausesIn : Option Value → List Value
  | some (.array clauses) => clauses
  | _ => []

/-- The clauses of a query under a name. -/
def clausesUnder (query : Value) (name : String) : List Value :=
  clausesIn ((query.field? "bool").bind (fun conditions => conditions.field? name))

theorem valueUnder?_clauseField (key name : String) (clauses : List Value)
    (rest : List (String × Value)) :
    valueUnder? key (clauseField name clauses ++ rest) =
      if name = key ∧ clauses ≠ [] then some (.array clauses) else valueUnder? key rest := by
  cases clauses with
  | nil => simp [clauseField]
  | cons clause clauses => simp [clauseField, valueUnder?]

theorem field?_single (key : String) (value : Value) : (single key value).field? key = some value :=
  if_pos rfl

theorem unrepeated_clauseFields (matched excluded restricted : List Value) :
    Unrepeated (clauseField "must" matched ++
      (clauseField "must_not" excluded ++ clauseField "filter" restricted)) := by
  unfold Unrepeated clauseField
  cases matched <;> cases excluded <;> cases restricted <;> simp

/-- A query has the clauses of its filter, each kind under its own name. -/
theorem clausesUnder_toValue (filter : Filter) :
    clausesUnder filter.toValue "must" = filter.matched.map Match.toValue ∧
      clausesUnder filter.toValue "must_not" = filter.excluded.map Exclusion.toValue ∧
      clausesUnder filter.toValue "filter" = filter.restricted.map Restriction.toValue := by
  have under (name : String) : clausesUnder filter.toValue name =
      clausesIn (valueUnder? name (clauseField "must" (filter.matched.map Match.toValue) ++
        (clauseField "must_not" (filter.excluded.map Exclusion.toValue) ++
          (clauseField "filter" (filter.restricted.map Restriction.toValue) ++ [])))) := by
    rw [clausesUnder, Filter.toValue, field?_single, Option.bind_some, List.append_assoc,
      Value.field?_ofFields_of_unrepeated (unrepeated_clauseFields _ _ _), List.append_nil]
  simp only [under, valueUnder?_clauseField]
  refine ⟨?_, ?_, ?_⟩
  · cases filter.matched <;> simp [valueUnder?, clausesIn]
  · cases filter.excluded <;> simp [valueUnder?, clausesIn]
  · cases filter.restricted <;> simp [valueUnder?, clausesIn]

/-! ### Bodies -/

namespace Request

theorem unrepeated_bodyFields (request : Request) :
    Unrepeated ([("size", .integer request.size), ("track_total_hits", .boolean true),
      ("query", request.filter.toValue)] ++
      aggregationField request.aggregations ++ sourceField request.sourceFields) := by
  unfold Unrepeated aggregationField sourceField
  cases request.aggregations <;> cases request.sourceFields <;> simp

theorem field?_body (request : Request) (key : String) :
    request.body.field? key =
      valueUnder? key ([("size", .integer request.size), ("track_total_hits", .boolean true),
        ("query", request.filter.toValue)] ++
        aggregationField request.aggregations ++ sourceField request.sourceFields) :=
  Value.field?_ofFields_of_unrepeated request.unrepeated_bodyFields key

theorem query_body (request : Request) :
    request.body.field? "query" = some request.filter.toValue := by
  rw [field?_body]
  rfl

theorem aggs_body (request : Request) (someAsked : request.aggregations ≠ []) :
    request.body.field? "aggs" =
      some (Value.ofFields
        (request.aggregations.map (fun named => (named.1, named.2.toValue)))) := by
  rw [field?_body]
  cases asked : request.aggregations with
  | nil => exact absurd asked someAsked
  | cons first rest => rfl

end Request

end RepoVitals.Search

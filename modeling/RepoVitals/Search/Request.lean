import RepoVitals.Json.Value
/-!
Searches: what is asked of the cluster.

Owns:
- filters, as three lists of conditions that keep their order;
- the aggregations that can be asked for by name;
- the body of a search as a JSON value.

The total number of hits is always tracked exactly.  A list of conditions that is empty does not
show in the body, and of two aggregations with one name the later one shows.
-/

namespace RepoVitals.Search

open Json (Value)

/-! ### Filters -/

/-- A field that must match a value. -/
structure Match where
  field : String
  value : Value

/-- A condition that must not hold. -/
inductive Exclusion where
  | present (field : String)
  | oneOf (field : String) (values : List String)
  deriving DecidableEq

/-- A condition that must hold and plays no part in ranking. -/
inductive Restriction where
  | oneOf (field : String) (values : List String)
  | between (field : String) (least greatest : Option String)
  deriving DecidableEq

/-- The conditions of a search. -/
structure Filter where
  matched : List Match
  excluded : List Exclusion
  restricted : List Restriction

namespace Filter

/-- No condition at all. -/
def all : Filter := ⟨[], [], []⟩

/-- `field` must match `value`. -/
def matching (filter : Filter) (field : String) (value : Value) : Filter :=
  { filter with matched := filter.matched ++ [⟨field, value⟩] }

/-- `field` must not exist. -/
def missing (filter : Filter) (field : String) : Filter :=
  { filter with excluded := filter.excluded ++ [.present field] }

/-- `field` must be none of `values`. -/
def excluding (filter : Filter) (field : String) (values : List String) : Filter :=
  { filter with excluded := filter.excluded ++ [.oneOf field values] }

/-- `field` must be one of `values`. -/
def anyOf (filter : Filter) (field : String) (values : List String) : Filter :=
  { filter with restricted := filter.restricted ++ [.oneOf field values] }

/-- `field` must lie between the bounds, either of which may be left open. -/
def range (filter : Filter) (field : String) (least greatest : Option String) : Filter :=
  { filter with restricted := filter.restricted ++ [.between field least greatest] }

/-- The conditions of both filters, those of the first one before those of the second. -/
def and (first second : Filter) : Filter where
  matched := first.matched ++ second.matched
  excluded := first.excluded ++ second.excluded
  restricted := first.restricted ++ second.restricted

end Filter

/-- An object with one field. -/
def single (key : String) (value : Value) : Value := Value.ofFields [(key, value)]

/-- A match as a query clause. -/
def Match.toValue (condition : Match) : Value :=
  single "match" (single condition.field condition.value)

/-- The clause that a field is one of the values. -/
def termsClause (field : String) (values : List String) : Value :=
  single "terms" (single field (Value.texts values))

/-- An exclusion as a query clause. -/
def Exclusion.toValue : Exclusion → Value
  | .present field => single "exists" (single "field" (.text field))
  | .oneOf field values => termsClause field values

/-- A bound under its name, if there is one. -/
def boundField (name : String) : Option String → List (String × Value)
  | none => []
  | some bound => [(name, .text bound)]

/-- A restriction as a query clause. -/
def Restriction.toValue : Restriction → Value
  | .oneOf field values => termsClause field values
  | .between field least greatest =>
    single "range"
      (single field (Value.ofFields (boundField "gte" least ++ boundField "lte" greatest)))

/-- A list of clauses under its name, unless it is empty. -/
def clauseField (name : String) (clauses : List Value) : List (String × Value) :=
  if clauses.isEmpty then [] else [(name, .array clauses)]

/-- The filter as a query. -/
def Filter.toValue (filter : Filter) : Value :=
  single "bool" (Value.ofFields
    (clauseField "must" (filter.matched.map Match.toValue) ++
      clauseField "must_not" (filter.excluded.map Exclusion.toValue) ++
      clauseField "filter" (filter.restricted.map Restriction.toValue)))

/-! ### Aggregations -/

/-- The aggregations that can be asked for. -/
inductive Aggregation where
  | sum (field : String)
  | average (field : String)
  | distinct (field : String)
  | terms (field : String) (size : Nat)
  | nestedTerms (outerField : String) (outerSize : Nat)
      (innerName innerField : String) (innerSize : Nat)
  deriving DecidableEq

/-- The aggregation `name` of a field. -/
def ofField (name field : String) : Value := single name (single "field" (.text field))

/-- The most frequent values of a field, at most `size` of them. -/
def termsOf (field : String) (size : Nat) : Value :=
  Value.ofFields [("field", .text field), ("size", .integer size)]

/-- An aggregation as part of a search body. -/
def Aggregation.toValue : Aggregation → Value
  | .sum field => ofField "sum" field
  | .average field => ofField "avg" field
  | .distinct field => ofField "cardinality" field
  | .terms field size => single "terms" (termsOf field size)
  | .nestedTerms outerField outerSize innerName innerField innerSize =>
    Value.ofFields
      [("terms", termsOf outerField outerSize),
        ("aggs", single innerName (single "terms" (termsOf innerField innerSize)))]

/-! ### Requests -/

/-- A search on an index. -/
structure Request where
  index : String
  filter : Filter
  size : Nat
  aggregations : List (String × Aggregation)
  sourceFields : Option (List String)

namespace Request

/-- A search that only counts. -/
def count (index : String) (filter : Filter) : Request :=
  ⟨index, filter, 0, [], none⟩

/-- Ask for an aggregation under a name. -/
def aggregating (request : Request) (name : String) (aggregation : Aggregation) : Request :=
  { request with aggregations := request.aggregations ++ [(name, aggregation)] }

/-- Ask for up to `size` hits with these fields of their sources. -/
def showing (request : Request) (size : Nat) (fields : List String) : Request :=
  { request with size := size, sourceFields := some fields }

/-- The aggregations of a body, unless there are none. -/
def aggregationField (aggregations : List (String × Aggregation)) :
    List (String × Value) :=
  if aggregations.isEmpty then []
  else [("aggs", Value.ofFields (aggregations.map (fun named => (named.1, named.2.toValue))))]

/-- The source fields of a body, if any are asked for. -/
def sourceField : Option (List String) → List (String × Value)
  | none => []
  | some fields => [("_source", Value.texts fields)]

/-- The body of the search. -/
def body (request : Request) : Value :=
  Value.ofFields
    ([("size", .integer request.size), ("track_total_hits", .boolean true),
        ("query", request.filter.toValue)] ++
      aggregationField request.aggregations ++ sourceField request.sourceFields)

end Request

end RepoVitals.Search

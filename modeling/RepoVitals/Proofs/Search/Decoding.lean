import RepoVitals.Proofs.Search.Body
import RepoVitals.Proofs.Steps
/-!
Searches read back from their bodies.

Owns:
- sequences of clauses, and the three lists that they leave in a filter;
- what is asked for, which is all that is in a request but its index;
- readers of conditions and of aggregations, each of which undoes the writing;
- `body_tells_search`: a body reads back as what is asked for, so that two requests have one body
  exactly if they ask for the same.

Conditions of two kinds may stand in one list, and an aggregation inside another one is told by one
key.  The readers look at the names in the body and at nothing else.
-/

namespace RepoVitals.Search

open Json (Value)

/-! ### Clauses -/

/-- A clause that is put into a filter. -/
inductive Clause where
  | matching (field : String) (value : Value)
  | missing (field : String)
  | excluding (field : String) (values : List String)
  | anyOf (field : String) (values : List String)
  | range (field : String) (least greatest : Option String)

namespace Clause

/-- Put the clause into a filter. -/
def addTo (filter : Filter) : Clause → Filter
  | matching field value => filter.matching field value
  | missing field => filter.missing field
  | excluding field values => filter.excluding field values
  | anyOf field values => filter.anyOf field values
  | range field least greatest => filter.range field least greatest

/-- What must match, if the clause says so. -/
def match? : Clause → Option Match
  | matching field value => some ⟨field, value⟩
  | _ => none

/-- What must not hold, if the clause says so. -/
def exclusion? : Clause → Option Exclusion
  | missing field => some (.present field)
  | excluding field values => some (.oneOf field values)
  | _ => none

/-- What restricts the search, if the clause does. -/
def restriction? : Clause → Option Restriction
  | anyOf field values => some (.oneOf field values)
  | range field least greatest => some (.between field least greatest)
  | _ => none

end Clause

/-- The filter that is built by these clauses, one after the other. -/
def Filter.ofClauses (clauses : List Clause) : Filter := clauses.foldl Clause.addTo .all

/-- Every clause goes to the end of its list. -/
theorem Filter.foldl_addTo (clauses : List Clause) (filter : Filter) :
    clauses.foldl Clause.addTo filter =
      ⟨filter.matched ++ clauses.filterMap Clause.match?,
        filter.excluded ++ clauses.filterMap Clause.exclusion?,
        filter.restricted ++ clauses.filterMap Clause.restriction?⟩ := by
  induction clauses generalizing filter with
  | nil => simp only [List.foldl_nil, List.filterMap_nil, List.append_nil]
  | cons clause rest inductionHypothesis =>
    rw [List.foldl_cons, inductionHypothesis]
    cases clause <;>
      simp [Clause.addTo, Filter.matching, Filter.missing, Filter.excluding, Filter.anyOf,
        Filter.range, Clause.match?, Clause.exclusion?, Clause.restriction?, List.filterMap_cons]

theorem Filter.ofClauses_eq (clauses : List Clause) :
    ofClauses clauses =
      ⟨clauses.filterMap Clause.match?, clauses.filterMap Clause.exclusion?,
        clauses.filterMap Clause.restriction?⟩ :=
  foldl_addTo clauses .all

/-! ### Conditions -/

/-- The field of an object that has just one. -/
def soleField? : Value → Option (String × Value)
  | .object [field] => some field
  | _ => none

@[simp] theorem soleField?_single (key : String) (value : Value) :
    soleField? (single key value) = some (key, value) :=
  rfl

/-- The texts of an array that holds nothing else. -/
def textsOf? (value : Value) : Option (List String) :=
  value.toItems?.bind (List.mapM Value.toText?)

/-- What was written item by item is read back item by item. -/
theorem mapM_map_eq_some
    {α β : Type}
    {write : α → β}
    {read : β → Option α}
    (undoes : ∀ item, read (write item) = some item)
    (items : List α) :
    (items.map write).mapM read = some items := by
  rw [mapM_eq_some_iff, List.forall₂_map_left_iff, List.forall₂_same]
  exact fun item _ => undoes item

@[simp] theorem textsOf?_texts (contents : List String) :
    textsOf? (Value.texts contents) = some contents := by
  have undoes : ∀ content, (Value.text content).toText? = some content := fun _ => rfl
  exact mapM_map_eq_some undoes contents

/-- A field, and texts one of which it has or lacks. -/
def termsIn? (part : Value) : Option (String × List String) := do
  let (field, values) ← soleField? part
  some (field, ← textsOf? values)

theorem termsIn?_single (field : String) (values : List String) :
    termsIn? (single field (Value.texts values)) = some (field, values) := by
  simp [termsIn?]

/-- The text of a field of an object. -/
def textIn? (key : String) (part : Value) : Option String :=
  (part.field? key).bind Value.toText?

namespace Match

/-- The match that a clause says. -/
def ofValue? (clause : Value) : Option Match :=
  match soleField? clause with
  | some ("match", condition) =>
    (soleField? condition).map (fun found => ⟨found.1, found.2⟩)
  | _ => none

theorem ofValue?_toValue (condition : Match) : ofValue? condition.toValue = some condition := rfl

end Match

namespace Exclusion

/-- The exclusion that a clause says. -/
def ofValue? (clause : Value) : Option Exclusion :=
  match soleField? clause with
  | some ("exists", part) => (textIn? "field" part).map .present
  | some ("terms", part) => (termsIn? part).map (fun found => .oneOf found.1 found.2)
  | _ => none

theorem ofValue?_toValue (exclusion : Exclusion) :
    ofValue? exclusion.toValue = some exclusion := by
  cases exclusion with
  | present field => rfl
  | oneOf field values =>
    show (termsIn? (single field (Value.texts values))).map _ = _
    rw [termsIn?_single]
    rfl

end Exclusion

namespace Restriction

/-- The restriction that a clause says. -/
def ofValue? (clause : Value) : Option Restriction :=
  match soleField? clause with
  | some ("terms", part) => (termsIn? part).map (fun found => .oneOf found.1 found.2)
  | some ("range", part) =>
    (soleField? part).map (fun found =>
      .between found.1 (textIn? "gte" found.2) (textIn? "lte" found.2))
  | _ => none

/-- Each bound is found under its own name, and one that is left open is not. -/
theorem textIn?_bounds (least greatest : Option String) :
    let bounds := Value.ofFields (boundField "gte" least ++ boundField "lte" greatest)
    textIn? "gte" bounds = least ∧ textIn? "lte" bounds = greatest := by
  have unrepeated : Unrepeated (boundField "gte" least ++ boundField "lte" greatest) := by
    cases least <;> cases greatest <;> simp [Unrepeated, boundField]
  simp only [textIn?, Value.field?_ofFields_of_unrepeated unrepeated]
  cases least <;> cases greatest <;> exact ⟨rfl, rfl⟩

theorem ofValue?_toValue (restriction : Restriction) :
    ofValue? restriction.toValue = some restriction := by
  cases restriction with
  | oneOf field values =>
    show (termsIn? (single field (Value.texts values))).map _ = _
    rw [termsIn?_single]
    rfl
  | between field least greatest =>
    obtain ⟨isLeast, isGreatest⟩ := textIn?_bounds least greatest
    show some (Restriction.between field _ _) = _
    rw [isLeast, isGreatest]

end Restriction

/-! ### Aggregations -/

/-- The natural number in a field of an object. -/
def countIn? (key : String) (part : Value) : Option Nat :=
  match part.field? key with
  | some (.number (.integer count)) => some count.toNat
  | _ => none

/-- The field and the number of buckets of a grouping. -/
def groupingIn? (part : Value) : Option (String × Nat) := do
  some (← textIn? "field" part, ← countIn? "size" part)

theorem groupingIn?_termsOf (field : String) (size : Nat) :
    groupingIn? (termsOf field size) = some (field, size) := by
  have unrepeated : Unrepeated [("field", Value.text field), ("size", Value.integer size)] :=
    (by decide : ["field", "size"].Nodup)
  simp only [groupingIn?, textIn?, countIn?, termsOf,
    Value.field?_ofFields_of_unrepeated unrepeated]
  rfl

namespace Aggregation

/-- The grouping that stands inside another one, under its name. -/
def innerIn? (part : Value) : Option (String × String × Nat) := do
  let (name, inner) ← soleField? part
  some (name, ← groupingIn? (← inner.field? "terms"))

/-- The aggregation that a part of a body asks for.  Only a grouping with another one inside has
`aggs`. -/
def ofValue? (asked : Value) : Option Aggregation :=
  match asked.field? "aggs" with
  | some part => do
    let (outerField, outerSize) ← groupingIn? (← asked.field? "terms")
    let (innerName, innerField, innerSize) ← innerIn? part
    some (.nestedTerms outerField outerSize innerName innerField innerSize)
  | none =>
    match soleField? asked with
    | some ("sum", part) => (textIn? "field" part).map .sum
    | some ("avg", part) => (textIn? "field" part).map .average
    | some ("cardinality", part) => (textIn? "field" part).map .distinct
    | some ("terms", part) => (groupingIn? part).map (fun found => .terms found.1 found.2)
    | _ => none

theorem innerIn?_single (name field : String) (size : Nat) :
    innerIn? (single name (single "terms" (termsOf field size))) = some (name, field, size) := by
  simp [innerIn?, field?_single, groupingIn?_termsOf]

theorem ofValue?_toValue (aggregation : Aggregation) :
    ofValue? aggregation.toValue = some aggregation := by
  cases aggregation with
  | sum field | average field | distinct field => rfl
  | terms field size =>
    show (groupingIn? (termsOf field size)).map _ = _
    rw [groupingIn?_termsOf]
    rfl
  | nestedTerms outerField outerSize innerName innerField innerSize =>
    have unrepeated : Unrepeated
        [("terms", termsOf outerField outerSize),
          ("aggs", single innerName (single "terms" (termsOf innerField innerSize)))] :=
      (by decide : ["terms", "aggs"].Nodup)
    have outer : (nestedTerms outerField outerSize innerName innerField innerSize).toValue.field?
        "terms" = some (termsOf outerField outerSize) :=
      Value.field?_ofFields_of_unrepeated unrepeated "terms"
    have inner : (nestedTerms outerField outerSize innerName innerField innerSize).toValue.field?
        "aggs" = some (single innerName (single "terms" (termsOf innerField innerSize))) :=
      Value.field?_ofFields_of_unrepeated unrepeated "aggs"
    simp [ofValue?, outer, inner, groupingIn?_termsOf, innerIn?_single]

end Aggregation

/-! ### Bodies -/

/-- What a search asks for, on whatever index. -/
structure Demand where
  size : Nat
  sourceFields : Option (List String)
  filter : Filter
  aggregations : Ledger Aggregation

/-- What a request asks for; of two aggregations with one name the later one counts. -/
def Request.demand (request : Request) : Demand where
  size := request.size
  sourceFields := request.sourceFields
  filter := request.filter
  aggregations := Ledger.ofList request.aggregations

namespace Demand

/-- The filter that a query says. -/
def filterIn? (query : Value) : Option Filter := do
  let matched ← (clausesUnder query "must").mapM Match.ofValue?
  let excluded ← (clausesUnder query "must_not").mapM Exclusion.ofValue?
  let restricted ← (clausesUnder query "filter").mapM Restriction.ofValue?
  some ⟨matched, excluded, restricted⟩

theorem filterIn?_toValue (filter : Filter) : filterIn? filter.toValue = some filter := by
  obtain ⟨matched, excluded, restricted⟩ := clausesUnder_toValue filter
  simp [filterIn?, matched, excluded, restricted, mapM_map_eq_some Match.ofValue?_toValue,
    mapM_map_eq_some Exclusion.ofValue?_toValue, mapM_map_eq_some Restriction.ofValue?_toValue]

/-- An aggregation with its name. -/
def namedIn? (field : String × Value) : Option (String × Aggregation) :=
  (Aggregation.ofValue? field.2).map (fun aggregation => (field.1, aggregation))

/-- The aggregations of a body, by name. -/
def aggregationsIn? (body : Value) : Option (Ledger Aggregation) :=
  match body.field? "aggs" with
  | none => some Ledger.empty
  | some (.object fields) => (fields.mapM namedIn?).map Ledger.ofList
  | some _ => none

/-- The source fields of a body, if it names any list of them. -/
def sourceFieldsIn? (body : Value) : Option (Option (List String)) :=
  match body.field? "_source" with
  | none => some none
  | some fields => (textsOf? fields).map some

/-- What the body of a search asks for. -/
def ofBody? (body : Value) : Option Demand := do
  let size ← countIn? "size" body
  let sourceFields ← sourceFieldsIn? body
  let filter ← filterIn? (← body.field? "query")
  let aggregations ← aggregationsIn? body
  some ⟨size, sourceFields, filter, aggregations⟩

theorem aggregationsIn?_body (request : Request) :
    aggregationsIn? request.body = some (Ledger.ofList request.aggregations) := by
  by_cases noneAsked : request.aggregations = []
  · rw [aggregationsIn?, Request.field?_body, noneAsked]
    cases request.sourceFields <;> rfl
  · have alongside : List.Forall₂
        (Alongside fun value aggregation => Aggregation.ofValue? value = some aggregation)
        (request.aggregations.map fun named => (named.1, named.2.toValue))
        request.aggregations := by
      rw [List.forall₂_map_left_iff, List.forall₂_same]
      exact fun named _ => ⟨rfl, named.2.ofValue?_toValue⟩
    have entries : (Ledger.ofList (request.aggregations.map fun named =>
        (named.1, named.2.toValue))).entries.mapM namedIn? =
        some (Ledger.ofList request.aggregations).entries := by
      rw [mapM_eq_some_iff]
      refine (Ledger.forall₂_ofList alongside).imp ?_
      rintro ⟨name, value⟩ ⟨name', aggregation⟩ ⟨rfl, isRead⟩
      exact Option.map_eq_some_iff.mpr ⟨aggregation, isRead, rfl⟩
    rw [aggregationsIn?, Request.aggs_body request noneAsked, Value.ofFields_eq]
    dsimp only
    rw [entries, Option.map_some, Ledger.ofList_entries]

theorem sourceFieldsIn?_body (request : Request) :
    sourceFieldsIn? request.body = some request.sourceFields := by
  rw [sourceFieldsIn?, Request.field?_body]
  cases request.aggregations <;> cases request.sourceFields with
  | none => rfl
  | some fields => exact congrArg (Option.map some) (textsOf?_texts fields)

theorem countIn?_body (request : Request) : countIn? "size" request.body = some request.size := by
  rw [countIn?, Request.field?_body]
  rfl

/-- The body of a request reads back as what the request asks for. -/
theorem ofBody?_body (request : Request) : ofBody? request.body = some request.demand := by
  simp [ofBody?, countIn?_body, sourceFieldsIn?_body, Request.query_body, filterIn?_toValue,
    aggregationsIn?_body, Request.demand]

end Demand

/-! ### Equal bodies -/

/-- The aggregations of a body, told from their ledger. -/
theorem Request.aggregationField_eq (aggregations : List (String × Aggregation)) :
    aggregationField aggregations =
      if (Ledger.ofList aggregations).entries.isEmpty then []
      else [("aggs", .object ((Ledger.ofList aggregations).entries.map fun named =>
        (named.1, named.2.toValue)))] := by
  cases aggregations with
  | nil => rfl
  | cons first rest =>
    have written : (Ledger.ofList (first :: rest)).entries ≠ [] := by
      obtain ⟨found, isFound⟩ := Option.isSome_iff_exists.mp
        (Ledger.isSome_get?_ofList (List.mem_cons_self (a := first) (l := rest)))
      exact List.ne_nil_of_mem (Ledger.get?_eq_some_iff.mp isFound)
    have alongside : List.Forall₂ (Alongside fun value aggregation => value = aggregation.toValue)
        ((first :: rest).map fun named => (named.1, named.2.toValue)) (first :: rest) := by
      rw [List.forall₂_map_left_iff, List.forall₂_same]
      exact fun _ _ => ⟨rfl, rfl⟩
    have entries : (Ledger.ofList ((first :: rest).map fun named =>
        (named.1, named.2.toValue))).entries =
        (Ledger.ofList (first :: rest)).entries.map fun named => (named.1, named.2.toValue) := by
      refine (List.map_id _).symm.trans (map_eq_map_of_forall₂ (Ledger.forall₂_ofList alongside) ?_)
      rintro ⟨name, value⟩ ⟨name', aggregation⟩ ⟨sameName, isValue⟩
      exact Prod.ext sameName isValue
    rw [if_neg (by rwa [List.isEmpty_iff]), ← entries, ← Value.ofFields_eq]
    rfl

/-- The body of a request holds what it asks for and nothing else. -/
theorem Request.body_eq_of_demand_eq
    {first second : Request} (same : first.demand = second.demand) :
    first.body = second.body := by
  obtain ⟨sameSize, sameFields, sameFilter, sameAggregations⟩ := Demand.mk.inj same
  rw [body, body, aggregationField_eq, aggregationField_eq, sameSize, sameFields, sameFilter,
    sameAggregations]

theorem Request.demand_eq_iff {first second : Request} :
    first.demand = second.demand ↔
      first.size = second.size ∧ first.sourceFields = second.sourceFields ∧
        first.filter = second.filter ∧
        ∀ name, valueUnder? name first.aggregations.reverse =
          valueUnder? name second.aggregations.reverse := by
  simp only [demand, Demand.mk.injEq, ← Ledger.get?_ofList_eq_valueUnder?]
  refine and_congr_right fun _ => and_congr_right fun _ => and_congr_right fun _ => ?_
  exact ⟨fun same name => by rw [same], Ledger.ext_get?⟩

/-- **A rendered search loses nothing.**  Whatever clauses are put into a filter, and whatever else
is asked for, the body reads back as the number of hits, the source fields if any list of them is
named, the clauses of each list in the order in which they were put in, and under each name the last
aggregation that was asked for under it.  Two requests have one body exactly if they agree on all of
that. -/
theorem body_tells_search :
    (∀ (index : String) (clauses : List Clause) (size : Nat) (sourceFields : Option (List String))
      (aggregations : List (String × Aggregation)), ∃ demand,
      Demand.ofBody? (Request.body
        ⟨index, Filter.ofClauses clauses, size, aggregations, sourceFields⟩) = some demand ∧
      demand.size = size ∧ demand.sourceFields = sourceFields ∧
      demand.filter.matched = clauses.filterMap Clause.match? ∧
      demand.filter.excluded = clauses.filterMap Clause.exclusion? ∧
      demand.filter.restricted = clauses.filterMap Clause.restriction? ∧
      ∀ name, demand.aggregations.get? name = valueUnder? name aggregations.reverse) ∧
    ∀ first second : Request, first.body = second.body ↔
      first.size = second.size ∧ first.sourceFields = second.sourceFields ∧
        first.filter = second.filter ∧
        ∀ name, valueUnder? name first.aggregations.reverse =
          valueUnder? name second.aggregations.reverse := by
  constructor
  · intro index clauses size sourceFields aggregations
    refine ⟨_, Demand.ofBody?_body _, rfl, rfl, ?_, ?_, ?_, ?_⟩
    · exact congrArg Filter.matched (Filter.ofClauses_eq clauses)
    · exact congrArg Filter.excluded (Filter.ofClauses_eq clauses)
    · exact congrArg Filter.restricted (Filter.ofClauses_eq clauses)
    · exact Ledger.get?_ofList_eq_valueUnder? aggregations
  · intro first second
    rw [← Request.demand_eq_iff]
    refine ⟨fun sameBody => ?_, Request.body_eq_of_demand_eq⟩
    have read := Demand.ofBody?_body first
    rw [sameBody, Demand.ofBody?_body] at read
    exact (Option.some.inj read).symm

end RepoVitals.Search

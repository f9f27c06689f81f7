import RepoVitals.Proofs.Search.Collection
import RepoVitals.Proofs.Search.Shape
import Mathlib.Data.List.Perm.Subperm
/-!
What evaluated searches say.

Owns:
- the documents that rendered filters admit, for each way of building a filter;
- the counts that are read from the answer to a grouping, and from one inside the buckets of
  another;
- answers in the shape that was asked for;
- the buckets of a grouping whose limit is not reached.
-/

namespace RepoVitals.Search

open Json (Value)

namespace Engine

variable (engine : Engine) (document : Stored)

/-! ### Filters -/

theorem admits_toValue (filter : Filter) :
    engine.admits filter.toValue document =
      (filter.matched.all (fun condition => document.has condition.field condition.value) &&
        filter.excluded.all (fun exclusion => !engine.holds document exclusion.toValue) &&
        filter.restricted.all (fun restriction => engine.holds document restriction.toValue)) := by
  obtain ⟨matched, excluded, restricted⟩ := clausesUnder_toValue filter
  rw [admits, matched, excluded, restricted, List.all_map, List.all_map, List.all_map]
  rfl

theorem admits_all : engine.admits Filter.all.toValue document = true :=
  admits_toValue engine document Filter.all

theorem admits_and (first second : Filter) :
    engine.admits (first.and second).toValue document =
      (engine.admits first.toValue document && engine.admits second.toValue document) := by
  simp only [admits_toValue, Filter.and, List.all_append]
  ac_rfl

theorem admits_matching (filter : Filter) (field : String) (value : Value) :
    engine.admits (filter.matching field value).toValue document =
      (engine.admits filter.toValue document && document.has field value) := by
  simp only [admits_toValue, Filter.matching, List.all_append, List.all_cons, List.all_nil,
    Bool.and_true]
  ac_rfl

theorem admits_anyOf (filter : Filter) (field : String) (values : List String) :
    engine.admits (filter.anyOf field values).toValue document =
      (engine.admits filter.toValue document &&
        values.any (fun value => value ∈ document.texts field)) := by
  have clause : engine.holds document (Restriction.oneOf field values).toValue =
      values.any (fun value => value ∈ document.texts field) := by
    show (values.map Value.text).any (document.has field) = _
    rw [List.any_map]
    congr 1
    funext value
    exact document.has_text field value
  simp only [admits_toValue, Filter.anyOf, List.all_append, List.all_cons, List.all_nil,
    Bool.and_true, clause]
  ac_rfl

/-- The documents that a search finds. -/
theorem found_body (collection : List Stored) (request : Request) :
    engine.found collection request.index request.body =
      collection.filter (fun document =>
        document.index = request.index && engine.admits request.filter.toValue document) := by
  rw [found, Request.query_body]
  rfl

end Engine

/-! ### Groupings -/

theorem exists_of_mem_topTexts
    {field : String}
    {size : Nat}
    {documents : List Stored}
    {entry : String × Nat}
    (member : entry ∈ topTexts field size documents) :
    ∃ document ∈ documents, entry.1 ∈ document.texts field := by
  have isTally := (List.mergeSort_perm _ _).mem_iff.mp (List.mem_of_mem_take member)
  obtain ⟨content, isContent, rfl⟩ := List.mem_map.mp isTally
  obtain ⟨document, isDocument, holds⟩ := List.mem_flatMap.mp (List.mem_dedup.mp isContent)
  exact ⟨document, isDocument, holds⟩

theorem count_of_mem_topTexts
    {field : String}
    {size : Nat}
    {documents : List Stored}
    {entry : String × Nat}
    (member : entry ∈ topTexts field size documents) :
    entry.2 = documents.countP (fun document => entry.1 ∈ document.texts field) := by
  have isTally := (List.mergeSort_perm _ _).mem_iff.mp (List.mem_of_mem_take member)
  obtain ⟨content, -, rfl⟩ := List.mem_map.mp isTally
  rfl

theorem unrepeated_tallies (field : String) (documents : List Stored) :
    Unrepeated (tallies field documents) := by
  rw [Unrepeated, tallies, List.map_map]
  show ((documents.flatMap _).dedup.map id).Nodup
  rw [List.map_id]
  exact List.nodup_dedup _

theorem unrepeated_topTexts (field : String) (size : Nat) (documents : List Stored) :
    Unrepeated (topTexts field size documents) := by
  have sorted : Unrepeated ((tallies field documents).mergeSort Outranks) :=
    ((List.mergeSort_perm _ _).map Prod.fst).nodup_iff.mpr (unrepeated_tallies field documents)
  exact sorted.sublist ((List.take_sublist _ _).map Prod.fst)

/-- A limit that is not below the number of texts leaves none out. -/
theorem mem_topTexts_of_few
    {field : String}
    {size : Nat}
    {documents : List Stored}
    {contents : List String}
    (within : ∀ document ∈ documents, ∀ content ∈ document.texts field, content ∈ contents)
    (few : contents.length ≤ size)
    {document : Stored}
    {content : String}
    (isDocument : document ∈ documents)
    (holds : content ∈ document.texts field) :
    content ∈ (topTexts field size documents).map Prod.fst := by
  have within' : (tallies field documents).map Prod.fst ⊆ contents := by
    intro content member
    obtain ⟨entry, isTally, rfl⟩ := List.mem_map.mp member
    obtain ⟨content, isContent, rfl⟩ := List.mem_map.mp isTally
    obtain ⟨document, isDocument, holds⟩ := List.mem_flatMap.mp (List.mem_dedup.mp isContent)
    exact within document isDocument content holds
  have short : ((tallies field documents).mergeSort Outranks).length ≤ size := by
    have bound := (List.subperm_of_subset (unrepeated_tallies field documents) within').length_le
    rw [List.length_map] at bound
    rw [List.length_mergeSort]
    exact Nat.le_trans bound few
  rw [topTexts, List.take_of_length_le short]
  have isContent : content ∈ (documents.flatMap (fun document => document.texts field)).dedup :=
    List.mem_dedup.mpr (List.mem_flatMap.mpr ⟨document, isDocument, holds⟩)
  have isTally := List.mem_map_of_mem (f := fun content =>
    (content, documents.countP (fun document => content ∈ document.texts field))) isContent
  exact List.mem_map_of_mem (f := Prod.fst) ((List.mergeSort_perm _ _).mem_iff.mpr isTally)

/-! ### Readings -/

namespace Engine

variable (engine : Engine)

/-- The counts that a grouping comes to. -/
def counts (field : String) (size : Nat) (documents : List Stored) : Ledger Int :=
  Ledger.ofList ((topTexts field size documents).map (fun entry =>
    (entry.1, engine.written entry.2)))

theorem exists_of_get?_counts
    {field : String}
    {size : Nat}
    {documents : List Stored}
    {content : String}
    {count : Int}
    (found : (engine.counts field size documents).get? content = some count) :
    ∃ entry ∈ topTexts field size documents,
      entry.1 = content ∧ engine.written entry.2 = count := by
  obtain ⟨entry, isEntry, same⟩ := List.mem_map.mp (Ledger.mem_of_get?_ofList found)
  exact ⟨entry, isEntry, Prod.mk.inj same⟩

/-- A text is counted by the documents that hold it. -/
theorem eq_written_of_counts
    {field : String}
    {size : Nat}
    {documents : List Stored}
    {content : String}
    {count : Int}
    (found : (engine.counts field size documents).get? content = some count) :
    count = engine.written (documents.countP (fun document => content ∈ document.texts field)) := by
  obtain ⟨entry, isEntry, rfl, rfl⟩ := engine.exists_of_get?_counts found
  rw [count_of_mem_topTexts isEntry]

/-- A limit that is not below the number of texts leaves each of them counted. -/
theorem mem_keys_counts_iff
    {field : String}
    {size : Nat}
    {documents : List Stored}
    {contents : List String}
    (within : ∀ document ∈ documents, ∀ content ∈ document.texts field, content ∈ contents)
    (few : contents.length ≤ size)
    (content : String) :
    content ∈ (engine.counts field size documents).keys ↔
      0 < documents.countP (fun document => content ∈ document.texts field) := by
  rw [Ledger.mem_keys_iff, List.countP_pos_iff]
  constructor
  · intro counted
    obtain ⟨count, found⟩ := Option.isSome_iff_exists.mp counted
    obtain ⟨entry, isEntry, rfl, -⟩ := engine.exists_of_get?_counts found
    obtain ⟨document, isDocument, holds⟩ := exists_of_mem_topTexts isEntry
    exact ⟨document, isDocument, decide_eq_true holds⟩
  · rintro ⟨document, isDocument, holds⟩
    obtain ⟨entry, isEntry, rfl⟩ := List.mem_map.mp
      (mem_topTexts_of_few within few isDocument (of_decide_eq_true holds))
    exact Ledger.isSome_get?_ofList (List.mem_map.mpr ⟨entry, isEntry, rfl⟩)

theorem counts_nil (field : String) (size : Nat) : engine.counts field size [] = Ledger.empty := by
  have none : topTexts field size [] = [] := by
    simp [topTexts, tallies]
  rw [counts, none]
  rfl

/-- The names of what is aggregated inside a bucket leave room for its key and count. -/
abbrev Fits (inner : List (String × Value)) : Prop :=
  Unrepeated ([("key", Value.null), ("doc_count", Value.null)] ++ inner)

variable {inner : List (String × Value)}

theorem field?_bucket (fits : Fits inner) (entry : String × Nat) (key : String) :
    (engine.bucket inner entry).field? key =
      valueUnder? key ([("key", .text entry.1),
        ("doc_count", .integer (engine.written entry.2))] ++ inner) := by
  have unrepeated : Unrepeated ([("key", .text entry.1),
      ("doc_count", .integer (engine.written entry.2))] ++ inner) := fits
  exact Value.field?_ofFields_of_unrepeated unrepeated key

theorem keyOf_bucket (fits : Fits inner) (entry : String × Nat) (name : String) :
    Response.keyOf name (engine.bucket inner entry) = .ok entry.1 := by
  rw [Response.keyOf, engine.field?_bucket fits]
  rfl

theorem count_bucket (fits : Fits inner) (entry : String × Nat) :
    ((engine.bucket inner entry).field? "doc_count").bind Value.toInt64? =
      some (engine.written entry.2) := by
  rw [engine.field?_bucket fits]
  exact if_pos (engine.written_fits entry.2)

theorem countOf_bucket (fits : Fits inner) (entry : String × Nat) (name : String) :
    Response.countOf name (engine.bucket inner entry) =
      .ok (entry.1, engine.written entry.2) := by
  rw [Response.countOf, engine.keyOf_bucket fits, Outcome.ok_bind, engine.count_bucket fits]

/-- What a grouping asks for is read off the body as it was meant. -/
theorem parts_termsOf (field : String) (size : Nat) :
    fieldOf (termsOf field size) = field ∧ sizeOf (termsOf field size) = size := by
  have unrepeated : Unrepeated [("field", Value.text field), ("size", Value.integer size)] :=
    (by decide : ["field", "size"].Nodup)
  constructor
  · rw [fieldOf, termsOf, Value.field?_ofFields_of_unrepeated unrepeated]
    rfl
  · rw [sizeOf, termsOf, Value.field?_ofFields_of_unrepeated unrepeated]
    rfl

theorem figures_terms (documents : List Stored) (field : String) (size : Nat) :
    engine.figures documents (Aggregation.terms field size).toValue =
      single "buckets" (.array ((topTexts field size documents).map (engine.bucket []))) := by
  obtain ⟨isField, isSize⟩ := parts_termsOf field size
  unfold figures
  simp only [Aggregation.toValue, field?_single, isField, isSize]

theorem countsOf_figures (name : String) (documents : List Stored) (field : String) (size : Nat) :
    Response.countsOf name (engine.figures documents (Aggregation.terms field size).toValue) =
      .ok (engine.counts field size documents) := by
  have fits : Fits [] := by decide
  rw [figures_terms, Response.countsOf, Response.bucketsOf_eq name (field?_single _ _),
    Outcome.ok_bind, mapM_map_eq fun entry _ => engine.countOf_bucket fits entry name]
  rfl

/-- The answer to a search that asks for one aggregation. -/
theorem get?_answer
    (collection : List Stored)
    {request : Request}
    {name : String}
    {aggregation : Aggregation}
    (asked : request.aggregations = [(name, aggregation)]) :
    (engine.answer collection request).aggregations.get? name =
      some (engine.aggregate (engine.found collection request.index request.body)
        aggregation.toValue) := by
  have aggs : request.body.field? "aggs" = some (.object [(name, aggregation.toValue)]) := by
    rw [Request.aggs_body request (by rw [asked]; exact List.cons_ne_nil _ _), asked]
    rfl
  unfold answer
  rw [aggs]
  exact Ledger.get?_insert_self _ _ _

theorem aggregation_answer
    (collection : List Stored)
    {request : Request}
    {name : String}
    {aggregation : Aggregation}
    (asked : request.aggregations = [(name, aggregation)]) :
    (engine.answer collection request).aggregation name =
      .ok (engine.aggregate (engine.found collection request.index request.body)
        aggregation.toValue) :=
  Response.aggregation_eq (engine.get?_answer collection asked)

/-- A grouping is read as the counts of its most frequent texts. -/
theorem terms_answer
    (collection : List Stored)
    {request : Request}
    {name field : String}
    {size : Nat}
    (asked : request.aggregations = [(name, .terms field size)]) :
    (engine.answer collection request).terms name =
      .ok (engine.counts field size (engine.found collection request.index request.body)) := by
  rw [Response.terms, engine.aggregation_answer collection asked, Outcome.ok_bind]
  exact engine.countsOf_figures name _ field size

/-- The documents of a bucket. -/
def within (field : String) (documents : List Stored) (entry : String × Nat) : List Stored :=
  documents.filter (fun document => entry.1 ∈ document.texts field)

theorem aggregate_nestedTerms
    (documents : List Stored)
    (outerField inner innerField : String)
    (outerSize innerSize : Nat) :
    engine.aggregate documents
        (Aggregation.nestedTerms outerField outerSize inner innerField innerSize).toValue =
      single "buckets" (.array ((topTexts outerField outerSize documents).map (fun entry =>
        engine.bucket [(inner, engine.figures (within outerField documents entry)
          (Aggregation.terms innerField innerSize).toValue)] entry))) := by
  have unrepeated : Unrepeated
      [("terms", termsOf outerField outerSize),
        ("aggs", single inner (single "terms" (termsOf innerField innerSize)))] :=
    (by decide : ["terms", "aggs"].Nodup)
  have isPart : (Aggregation.nestedTerms outerField outerSize inner innerField
      innerSize).toValue.field? "terms" = some (termsOf outerField outerSize) :=
    Value.field?_ofFields_of_unrepeated unrepeated "terms"
  have isInner : (Aggregation.nestedTerms outerField outerSize inner innerField
      innerSize).toValue.field? "aggs" =
        some (.object [(inner, (Aggregation.terms innerField innerSize).toValue)]) :=
    Value.field?_ofFields_of_unrepeated unrepeated "aggs"
  obtain ⟨isField, isSize⟩ := parts_termsOf outerField outerSize
  unfold aggregate
  simp only [isPart, isInner, isField, isSize, List.map_cons, List.map_nil]
  rfl

/-- Groupings inside the buckets of another one are read as the counts among the documents of each
bucket. -/
theorem nestedTerms_answer
    (collection : List Stored)
    {request : Request}
    {outer outerField inner innerField : String}
    {outerSize innerSize : Nat}
    (asked : request.aggregations =
      [(outer, .nestedTerms outerField outerSize inner innerField innerSize)])
    (notKey : inner ≠ "key")
    (notCount : inner ≠ "doc_count") :
    let documents := engine.found collection request.index request.body
    (engine.answer collection request).nestedTerms outer inner =
      .ok (Ledger.ofList ((topTexts outerField outerSize documents).map (fun entry =>
        (entry.1, engine.counts innerField innerSize (within outerField documents entry))))) := by
  intro documents
  have fits (value : Value) : Fits [(inner, value)] := by
    simp [Fits, Unrepeated, notKey.symm, notCount.symm]
  have read : ∀ entry ∈ topTexts outerField outerSize documents,
      Response.innerCountsOf outer inner
        (engine.bucket [(inner, engine.figures (within outerField documents entry)
          (Aggregation.terms innerField innerSize).toValue)] entry) =
        .ok (entry.1, engine.counts innerField innerSize (within outerField documents entry)) := by
    intro entry _
    have isInner : (engine.bucket [(inner, engine.figures (within outerField documents entry)
        (Aggregation.terms innerField innerSize).toValue)] entry).field? inner =
          some (engine.figures (within outerField documents entry)
            (Aggregation.terms innerField innerSize).toValue) := by
      rw [engine.field?_bucket (fits _)]
      simp [valueUnder?, notKey.symm, notCount.symm]
    rw [Response.innerCountsOf, engine.keyOf_bucket (fits _), Outcome.ok_bind, isInner]
    simp only [engine.countsOf_figures, Outcome.ok_bind]
  rw [Response.nestedTerms, engine.aggregation_answer collection asked, Outcome.ok_bind,
    aggregate_nestedTerms, Response.bucketsOf_eq outer (field?_single _ _), Outcome.ok_bind,
    mapM_map_eq read, Outcome.ok_bind]

/-! ### Shapes -/

variable {engine}

/-- Single-valued aggregations come to a number, or to null. -/
def GivesFigures (engine : Engine) : Prop :=
  ∀ kind terms, engine.figure kind terms = .null ∨
    ∃ number, engine.figure kind terms = .number number

theorem isFigure_aggregate
    (gives : engine.GivesFigures)
    (documents : List Stored)
    {kind : String}
    (field : String)
    (notTerms : kind ≠ "terms") :
    IsFigure (engine.aggregate documents (ofField kind field)) := by
  have noTerms : (ofField kind field).field? "terms" = none := if_neg notTerms
  have isSingle : engine.aggregate documents (ofField kind field) =
      single "value" (engine.figure kind
        (documents.flatMap fun document =>
          document.terms (fieldOf (single "field" (.text field))))) := by
    unfold aggregate figures
    simp only [noTerms]
    rfl
  rw [isSingle, IsFigure, field?_single]
  rcases gives kind _ with isNull | ⟨number, isNumber⟩
  · exact .inl (congrArg some isNull)
  · exact .inr ⟨number, congrArg some isNumber⟩

theorem listsBuckets_aggregate (documents : List Stored) (field : String) (size : Nat) :
    ListsBuckets IsBucket
      (engine.aggregate documents (Aggregation.terms field size).toValue) := by
  have fits : Fits [] := by decide
  have isFigures : engine.aggregate documents (Aggregation.terms field size).toValue =
      engine.figures documents (Aggregation.terms field size).toValue :=
    rfl
  rw [isFigures, figures_terms]
  refine ⟨_, field?_single _ _, fun bucket isBucket => ?_⟩
  obtain ⟨entry, -, rfl⟩ := List.mem_map.mp isBucket
  refine ⟨.inl ⟨entry.1, ?_⟩, _, engine.count_bucket fits entry⟩
  rw [engine.field?_bucket fits]
  rfl

/-- An evaluated search that asks for no more than one aggregation is answered in its own shape, if
the aggregation is. -/
theorem suits_answer
    {collection : List Stored}
    {request : Request}
    (short : request.aggregations.length ≤ 1)
    (each : ∀ named ∈ request.aggregations, ∀ documents,
      named.2.Suits (engine.aggregate documents named.2.toValue)) :
    request.Suits (engine.answer collection request) := by
  refine ⟨⟨_, rfl⟩, fun named isNamed => ?_⟩
  have one : request.aggregations = [named] := by
    obtain ⟨only, isOnly⟩ := List.length_eq_one_iff.mp
      (Nat.le_antisymm short (List.length_pos_of_mem isNamed))
    rw [isOnly] at isNamed ⊢
    rw [List.mem_singleton.mp isNamed]
  exact ⟨_, engine.get?_answer collection one, each named isNamed _⟩

end Engine

end RepoVitals.Search

import RepoVitals.Search.Response
import RepoVitals.Proofs.Search.Body
import Mathlib.Data.List.Dedup
/-!
A collection of documents that answers searches.

Owns:
- documents as terms of fields, and collections of them;
- the evaluation of a search over a collection: the query of its body admits or rejects each
  document, and each of its aggregations is made of the documents that were admitted;
- what a rendered filter admits, clause by clause and for composed filters.

The evaluation reads the body as it is sent and nothing else of the request but its index.  What the
searches of the catalogue do not fix is left open in `Engine`: ranges of dates, single-valued
aggregations and the sources of hits.
-/

namespace RepoVitals.Search

open Json (Value)

/-! ### Documents -/

/-- One of the things that a field holds. -/
inductive Term where
  | text (content : String)
  | boolean (value : Bool)
  | integer (value : Int)
  deriving DecidableEq

/-- The term that a value of a query asks for. -/
def Term.ofValue? : Value → Option Term
  | .text content => some (.text content)
  | .boolean value => some (.boolean value)
  | .number (.integer value) => some (.integer value)
  | _ => none

/-- The text of a term, if it is one. -/
def Term.toText? : Term → Option String
  | .text content => some content
  | _ => none

/-- A document of an index, with the terms of each field; a field that is missing has none. -/
structure Stored where
  index : String
  terms : String → List Term

namespace Stored

/-- The field holds the value. -/
def has (document : Stored) (field : String) (value : Value) : Bool :=
  (Term.ofValue? value).any (fun term => term ∈ document.terms field)

/-- The texts of a field. -/
def texts (document : Stored) (field : String) : List String :=
  (document.terms field).filterMap Term.toText?

theorem has_text (document : Stored) (field content : String) :
    document.has field (.text content) = decide (content ∈ document.texts field) := by
  have same : Term.text content ∈ document.terms field ↔ content ∈ document.texts field := by
    rw [texts, List.mem_filterMap]
    constructor
    · exact fun member => ⟨_, member, rfl⟩
    · rintro ⟨term, member, isText⟩
      cases term with
      | text other =>
        cases isText
        exact member
      | boolean value => cases isText
      | integer value => cases isText
  exact decide_eq_decide.mpr same

end Stored

/-! ### Frequencies -/

/-- The texts of a field, with the number of documents that hold each. -/
def tallies (field : String) (documents : List Stored) : List (String × Nat) :=
  (documents.flatMap (fun document => document.texts field)).dedup.map (fun content =>
    (content, documents.countP (fun document => content ∈ document.texts field)))

/-- The first text is held by more documents, or by as many and is not the greater one. -/
def Outranks (first second : String × Nat) : Bool :=
  second.2 < first.2 || (first.2 == second.2 && first.1 ≤ second.1)

/-- The most frequent texts of a field, at most `size` of them. -/
def topTexts (field : String) (size : Nat) (documents : List Stored) : List (String × Nat) :=
  ((tallies field documents).mergeSort Outranks).take size

/-- Of three texts with two documents each, the limit leaves out the greatest. -/
example :
    topTexts "label" 2 ([["b", "a"], ["c", "b"], ["c", "a", "c"]].map (fun labels =>
      ⟨"issues", fun _ => labels.map .text⟩)) = [("a", 2), ("b", 2)] := by
  cbv

/-! ### Evaluation -/

/-- What evaluates searches, as far as they leave it open. -/
structure Engine where
  /-- A term lies between the bounds of a range. -/
  lies : Value → Term → Bool
  /-- The number that is written for so many documents; it has 64 bits. -/
  written : Nat → Int
  written_fits : ∀ documents,
    Binary64.leastInt64 ≤ written documents ∧ written documents ≤ Binary64.greatestInt64
  written_exact : ∀ documents : Nat,
    (documents : Int) ≤ Binary64.greatestInt64 → written documents = documents
  /-- A single-valued aggregation of the terms of a field, by the name of its kind. -/
  figure : String → List Term → Value
  /-- The sources of the hits that the body of a search shows. -/
  sources : Value → List Stored → List Value

instance : Inhabited Engine where
  default :=
    { lies := fun _ _ => true
      written := fun documents => min documents Binary64.greatestInt64
      written_fits := fun documents => by
        refine ⟨?_, Int.min_le_right _ _⟩
        refine Int.le_min.mpr ⟨?_, by decide⟩
        exact Int.le_trans (by decide : Binary64.leastInt64 ≤ 0) (Int.natCast_nonneg documents)
      written_exact := fun _ few => Int.min_eq_left few
      figure := fun _ _ => .null
      sources := fun _ _ => [] }

namespace Engine

variable (engine : Engine)

/-- A clause of a query holds of a document. -/
def holds (document : Stored) : Value → Bool
  | .object [("match", .object [(field, value)])] => document.has field value
  | .object [("terms", .object [(field, .array values)])] => values.any (document.has field)
  | .object [("exists", .object [("field", .text field)])] => !(document.terms field).isEmpty
  | .object [("range", .object [(field, bounds)])] =>
    (document.terms field).any (engine.lies bounds)
  | _ => false

/-- A query admits a document. -/
def admits (query : Value) (document : Stored) : Bool :=
  (clausesUnder query "must").all (engine.holds document) &&
    (clausesUnder query "must_not").all (fun clause => !engine.holds document clause) &&
    (clausesUnder query "filter").all (engine.holds document)

/-- The documents of an index that the query of a body admits. -/
def found (collection : List Stored) (index : String) (body : Value) : List Stored :=
  collection.filter (fun document =>
    document.index = index && (body.field? "query").all (fun query => engine.admits query document))

/-- The field that a part of an aggregation names. -/
def fieldOf (part : Value) : String :=
  ((part.field? "field").bind Value.toText?).getD ""

/-- How many buckets a part of an aggregation asks for. -/
def sizeOf (part : Value) : Nat :=
  match part.field? "size" with
  | some (.number (.integer size)) => size.toNat
  | _ => 10

/-- The bucket of a text, with what is aggregated inside it. -/
def bucket (inner : List (String × Value)) (entry : String × Nat) : Value :=
  Value.ofFields
    ([("key", .text entry.1), ("doc_count", .integer (engine.written entry.2))] ++ inner)

/-- An aggregation without another one inside. -/
def figures (documents : List Stored) (asked : Value) : Value :=
  match asked.field? "terms" with
  | some part =>
    single "buckets" (.array ((topTexts (fieldOf part) (sizeOf part) documents).map
      (engine.bucket [])))
  | none =>
    match asked with
    | .object ((kind, part) :: _) =>
      single "value" (engine.figure kind
        (documents.flatMap (fun document => document.terms (fieldOf part))))
    | _ => .null

/-- An aggregation, with others inside its buckets if they are asked for. -/
def aggregate (documents : List Stored) (asked : Value) : Value :=
  match asked.field? "terms", asked.field? "aggs" with
  | some part, some (.object inner) =>
    single "buckets" (.array ((topTexts (fieldOf part) (sizeOf part) documents).map (fun entry =>
      engine.bucket
        (inner.map (fun named => (named.1, engine.figures
          (documents.filter (fun document => entry.1 ∈ document.texts (fieldOf part))) named.2)))
        entry)))
  | _, _ => engine.figures documents asked

/-- The answer to a search of a collection. -/
def answer (collection : List Stored) (request : Request) : Response :=
  let documents := engine.found collection request.index request.body
  { total := some (engine.written documents.length)
    hits := engine.sources request.body documents
    aggregations :=
      match request.body.field? "aggs" with
      | some (.object asked) =>
        Ledger.ofList (asked.map (fun named => (named.1, engine.aggregate documents named.2)))
      | _ => Ledger.empty }

end Engine

end RepoVitals.Search

import Mathlib.Data.List.Basic
import RepoVitals.Index.Presence
import RepoVitals.Sink.Memory
/-!
Remembering: the store in memory holds what its log says.

Owns:
- the writes that a sequence of bulk calls amounts to, and the documents after them;
- `Memory.Adds`: what calls add to the store, which is all that the store ever does to its log and
  documents;
- `Memory.Remembers`: the log names some calls, and the documents are their accepted documents,
  written in order;
- `paced`, the store with any delays.
-/

namespace RepoVitals.Sink

open Bulk (Verdict)
open Index (Settings)

/-! ### Writes -/

/-- A bulk call with everything it carried. -/
structure Cargo where
  index : String
  documents : List Entry
  deriving DecidableEq

/-- The call as the log of a store names it. -/
def Cargo.call (cargo : Cargo) : Call := ⟨cargo.index, cargo.documents.map Entry.id⟩

/-- A document that was written into an index. -/
structure Written where
  index : String
  document : Entry
  deriving DecidableEq

/-- What a call writes: all its documents, in order, but for the rejected ones. -/
def Cargo.writes (rejected : List String) (cargo : Cargo) : List Written :=
  (cargo.documents.filter (fun document => !rejected.contains document.id)).map
    (fun document => ⟨cargo.index, document⟩)

/-- The documents after one more was written. -/
def Written.onto (documents : Ledger (Ledger String)) (written : Written) :
    Ledger (Ledger String) :=
  documents.insert written.index
    (((documents.get? written.index).getD Ledger.empty).insert written.document.id
      written.document.body)

/-- The body under an id of an index. -/
def bodyUnder? (documents : Ledger (Ledger String)) (index id : String) : Option String :=
  ((documents.get? index).getD Ledger.empty).get? id

theorem bodyUnder?_onto (documents : Ledger (Ledger String)) (written : Written)
    (index id : String) :
    bodyUnder? (written.onto documents) index id =
      if written.index = index ∧ written.document.id = id then some written.document.body
      else bodyUnder? documents index id := by
  unfold bodyUnder? Written.onto
  by_cases sameIndex : written.index = index
  · subst sameIndex
    rw [Ledger.get?_insert_self, Option.getD_some]
    by_cases sameId : written.document.id = id
    · subst sameId
      rw [Ledger.get?_insert_self, if_pos ⟨rfl, rfl⟩]
    · rw [Ledger.get?_insert_of_ne _ _ (Ne.symm sameId), if_neg fun both => sameId both.2]
  · rw [Ledger.get?_insert_of_ne _ _ (Ne.symm sameIndex), if_neg fun both => sameIndex both.1]

theorem bodyUnder?_foldl_of_not_mem {writes : List Written} {index id : String}
    (others : ∀ written ∈ writes, ¬(written.index = index ∧ written.document.id = id))
    (documents : Ledger (Ledger String)) :
    bodyUnder? (writes.foldl Written.onto documents) index id =
      bodyUnder? documents index id := by
  induction writes generalizing documents with
  | nil => rfl
  | cons head rest inductionHypothesis =>
    have headOther := others head List.mem_cons_self
    rw [List.foldl_cons, inductionHypothesis fun written member =>
      others written (List.mem_cons_of_mem _ member), bodyUnder?_onto, if_neg headOther]

/-- A document that is written once has its body afterwards. -/
theorem bodyUnder?_foldl_of_mem {writes : List Written} {written : Written}
    (member : written ∈ writes) (once : (writes.map fun each => each.document.id).Nodup)
    (documents : Ledger (Ledger String)) :
    bodyUnder? (writes.foldl Written.onto documents) written.index written.document.id =
      some written.document.body := by
  induction writes generalizing documents with
  | nil => cases member
  | cons head rest inductionHypothesis =>
    rw [List.map_cons, List.nodup_cons] at once
    rcases List.mem_cons.mp member with rfl | later
    · -- Later writes name other documents.
      have others : ∀ other ∈ rest, ¬(other.index = written.index ∧
          other.document.id = written.document.id) :=
        fun other isOther both => once.1 (both.2 ▸ List.mem_map_of_mem isOther)
      rw [List.foldl_cons, bodyUnder?_foldl_of_not_mem others, bodyUnder?_onto,
        if_pos ⟨rfl, rfl⟩]
    · rw [List.foldl_cons]
      exact inductionHypothesis later once.2 _

/-! ### The store -/

/-- The call was answered, and not with a failure. -/
def Landing.isTaken : Landing → Bool
  | .answered (.ok _) => true
  | _ => false

namespace Memory

/-- The log names these calls, and the documents are their accepted documents, written in order. -/
structure Remembers (store : Memory) (cargos : List Cargo) : Prop where
  calls : store.calls = cargos.map Cargo.call
  documents : store.documents =
    (cargos.flatMap (Cargo.writes store.rejected)).foldl Written.onto Ledger.empty

/-- The store after it has taken in some more calls. -/
structure Adds (store : Memory) (cargos : List Cargo) (after : Memory) : Prop where
  calls : after.calls = store.calls ++ cargos.map Cargo.call
  rejected : after.rejected = store.rejected
  documents : after.documents =
    (cargos.flatMap (Cargo.writes store.rejected)).foldl Written.onto store.documents

variable {store middle after : Memory} {cargos more : List Cargo} {index id : String}

theorem remembers_empty (latency : Nat) (rejected : List String) (race : Bool) (broken : Nat) :
    (empty latency rejected race broken).Remembers [] :=
  ⟨rfl, rfl⟩

theorem Remembers.adds (remembers : store.Remembers cargos) (adds : store.Adds more after) :
    after.Remembers (cargos ++ more) where
  calls := by rw [adds.calls, remembers.calls, List.map_append]
  documents := by
    rw [adds.documents, adds.rejected, remembers.documents, List.flatMap_append,
      List.foldl_append]

theorem Adds.of_same
    (calls : after.calls = store.calls)
    (rejected : after.rejected = store.rejected)
    (documents : after.documents = store.documents) :
    store.Adds [] after :=
  ⟨by simp [calls], rejected, documents⟩

theorem Adds.trans (first : store.Adds cargos middle) (second : middle.Adds more after) :
    store.Adds (cargos ++ more) after where
  calls := by rw [second.calls, first.calls, List.map_append, List.append_assoc]
  rejected := second.rejected.trans first.rejected
  documents := by
    rw [second.documents, first.rejected, first.documents, List.flatMap_append,
      List.foldl_append]

theorem Adds.untouched (adds : store.Adds more after)
    (others : ∀ cargo ∈ more, ∀ written ∈ cargo.writes store.rejected,
      ¬(written.index = index ∧ written.document.id = id)) :
    bodyUnder? after.documents index id = bodyUnder? store.documents index id := by
  rw [adds.documents]
  refine bodyUnder?_foldl_of_not_mem (fun written member => ?_) _
  obtain ⟨cargo, isMore, isWritten⟩ := List.mem_flatMap.mp member
  exact others cargo isMore written isWritten

theorem mem_of_mem_writes {rejected : List String} {cargo : Cargo} {written : Written}
    (member : written ∈ cargo.writes rejected) :
    written.index = cargo.index ∧ written.document ∈ cargo.documents := by
  obtain ⟨document, isThere, rfl⟩ := List.mem_map.mp member
  exact ⟨rfl, (List.mem_filter.mp isThere).1⟩

theorem foldl_put (index : String) (documents : List Entry) (store : Memory) :
    documents.foldl (put index) store = { store with
      documents := ((Cargo.mk index documents).writes store.rejected).foldl Written.onto
        store.documents } := by
  induction documents generalizing store with
  | nil => rfl
  | cons document rest inductionHypothesis =>
    rw [List.foldl_cons, inductionHypothesis]
    unfold put Cargo.writes
    by_cases isRejected : store.rejected.contains document.id = true
    · simp only [isRejected, ↓reduceIte, List.filter_cons, Bool.not_true, Bool.false_eq_true]
    · simp only [isRejected, ↓reduceIte, List.filter_cons, Bool.not_false, Bool.false_eq_true,
        List.map_cons, List.foldl_cons]
      rfl

/-- The store takes in the whole call, with a verdict on every document, or nothing of it. -/
theorem receive_cases (store : Memory) (index : String) (documents : List Entry) :
    ((store.receive index documents).1 = .answered (.ok (documents.map store.judge)) ∧
        store.Adds [⟨index, documents⟩] (store.receive index documents).2) ∨
      ((∃ failure, (store.receive index documents).1 = .answered (.error failure)) ∧
        store.Adds [] (store.receive index documents).2) := by
  unfold receive
  split
  · exact .inr ⟨⟨_, rfl⟩, .of_same rfl rfl rfl⟩
  · refine .inl ⟨rfl, ?_⟩
    dsimp only
    rw [foldl_put]
    exact ⟨rfl, rfl, by simp⟩

/-- The store says of just the documents that it writes that they are stored. -/
theorem countP_judge (store : Memory) (index : String) (documents : List Entry) :
    (documents.map store.judge).countP Verdict.isStored =
      ((Cargo.mk index documents).writes store.rejected).length := by
  rw [List.countP_map, List.countP_eq_length_filter, Cargo.writes, List.length_map]
  refine congrArg List.length (List.filter_congr fun document _ => ?_)
  simp only [Function.comp_apply, judge]
  cases store.rejected.contains document.id <;> rfl

theorem adds_receive (store : Memory) (index : String) (documents : List Entry) :
    store.Adds (if (store.receive index documents).1.isTaken then [⟨index, documents⟩] else [])
      (store.receive index documents).2 := by
  rcases store.receive_cases index documents with ⟨answer, adds⟩ | ⟨⟨failure, answer⟩, adds⟩ <;>
  · rw [answer]
    exact adds

theorem create_of_present {settings : Settings} (present : index ∈ store.indexes) :
    store.create index settings = (.alreadyExists, store) := by
  simp [create, present]

theorem create_of_absent {settings : Settings} (noRace : store.race = false)
    (absent : index ∉ store.indexes) :
    store.create index settings = (.created, { store with
      indexes := store.indexes ++ [index]
      created := store.created ++ [(index, settings)] }) := by
  simp [create, noRace, absent]

end Memory

/-! ### Delays -/

/-- The store in memory, with a delay for every call. -/
def paced (delay : Memory → String → List Entry → Nat) : Sink Memory :=
  { memory with
    takeOff := fun store index documents => (⟨delay store index documents, none⟩, store) }

/-- The store itself has the same delay for every call. -/
theorem memory_eq_paced : memory = paced fun store _ _ => store.latency := rfl

/-- Making sure of an index touches neither the log nor the documents. -/
theorem adds_ensure {delay : Memory → String → List Entry → Nat} {settings : Settings}
    {index : String} {store ensured : Memory} {outcome : Outcome Unit}
    (ensures : Index.ensure (paced delay) settings index store = (outcome, ensured)) :
    store.Adds [] ensured := by
  simp only [Index.ensure, Index.Stage.step, paced, memory] at ensures
  cases present : store.indexes.contains index
  · simp only [present, Memory.create, Bool.false_eq_true, or_false, ↓reduceIte] at ensures
    cases racing : store.race <;>
    · simp only [racing, Bool.false_eq_true, ↓reduceIte] at ensures
      cases ensures
      exact .of_same rfl rfl rfl
  · simp only [present] at ensures
    cases ensures
    exact .of_same rfl rfl rfl

end RepoVitals.Sink

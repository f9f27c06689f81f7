import RepoVitals.Sink.Basic
/-!
The store in memory: a sink that remembers everything.

Owns:
- the store (its indexes, the creations and bulk calls it saw, and its documents);
- its knobs: slow calls, ids that are rejected, a lost creation race, and calls that fail outright.

A call takes its whole effect when it lands: a call that is cut off before that leaves no trace.
-/

namespace RepoVitals.Sink

open Bulk (Verdict)
open Index (Settings)

/-- One bulk call that a sink saw: the index and the ids, in order. -/
structure Call where
  index : String
  ids : List String
  deriving DecidableEq

/-- The store; `latency` is in nanoseconds, and the next `broken` calls fail. -/
structure Memory where
  latency : Nat
  rejected : List String
  race : Bool
  broken : Nat
  indexes : List String
  created : List (String × Settings)
  calls : List Call
  documents : Ledger (Ledger String)
  deriving DecidableEq

namespace Memory

/-- A store that holds nothing. -/
def empty (latency : Nat) (rejected : List String) (race : Bool) (broken : Nat) : Memory :=
  ⟨latency, rejected, race, broken, [], [], [], Ledger.empty⟩

/-- The documents of an index. -/
def documentsOf (store : Memory) (index : String) : Ledger String :=
  (store.documents.get? index).getD Ledger.empty

/-- Create an index.  In a race somebody else is always first. -/
def create (store : Memory) (index : String) (settings : Settings) : Creation × Memory :=
  let present := store.indexes.contains index
  let known := if present then store else { store with indexes := store.indexes ++ [index] }
  if store.race ∨ present then (.alreadyExists, known)
  else (.created, { known with created := known.created ++ [(index, settings)] })

/-- The verdict on a document. -/
def judge (store : Memory) (document : Entry) : Verdict :=
  if store.rejected.contains document.id then
    ⟨document.id, 400, some "mapper_parsing_exception: rejected by test"⟩
  else .stored document.id

/-- Write a document unless its id is rejected. -/
def put (index : String) (store : Memory) (document : Entry) : Memory :=
  if store.rejected.contains document.id then store
  else
    { store with
      documents := store.documents.insert index
        ((store.documentsOf index).insert document.id document.body) }

/-- Take a bulk call in. -/
def receive (store : Memory) (index : String) (documents : List Entry) : Landing × Memory :=
  if 0 < store.broken then
    (.answered (.error (.ofCause .storeUnreachable)), { store with broken := store.broken - 1 })
  else
    let logged := { store with
      calls := store.calls ++ [⟨index, documents.map Entry.id⟩] }
    (.answered (.ok (documents.map store.judge)), documents.foldl (put index) logged)

end Memory

/-- The store in memory as a sink. -/
def memory : Sink Memory where
  indexExists store index := (.ok (store.indexes.contains index), store)
  createIndex store index settings :=
    let (creation, after) := store.create index settings
    (.ok creation, after)
  takeOff store _ _ := (⟨store.latency, none⟩, store)
  land store index documents _ := store.receive index documents

end RepoVitals.Sink

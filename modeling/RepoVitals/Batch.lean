import RepoVitals.Document
/-!
Batches: documents on their way into an index, frozen.

Owns:
- the map from ids to bodies that a sequence of documents makes, where the later of two documents
  with one id wins;
- the list of its entries in ascending order of their ids, in which an id is found by halving.
-/

namespace RepoVitals

/-- One document as it is sent. -/
structure Entry where
  id : String
  body : String
  deriving DecidableEq

/-- A document as it is sent. -/
def Document.entry (document : Document) : Entry := ⟨document.id, document.body⟩

@[simp] theorem Document.entry_id (document : Document) : document.entry.id = document.id := rfl

@[simp] theorem Document.entry_body (document : Document) : document.entry.body = document.body :=
  rfl

/-- Bodies by id. -/
abbrev Batch := Ledger String

namespace Batch

/-- The entries in ascending order of their ids. -/
def documents (batch : Batch) : List Entry :=
  batch.entries.map (fun entry => ⟨entry.1, entry.2⟩)

/-- Halve the `size` positions from `base` on until one is left; `reaches` says of a position
whether what stands there is not greater than what is looked for. -/
def bisect (reaches : Nat → Bool) (base size : Nat) : Nat :=
  if size ≤ 1 then base
  else
    let middle := base + size / 2
    bisect reaches (if reaches middle then middle else base) (size - size / 2)
termination_by size

/-- The body under an id, found by halving the entries. -/
def bodyOf? (batch : Batch) (id : String) : Option String :=
  let entries := batch.documents
  let reaches := fun position => entries[position]?.any (fun entry => ¬id < entry.id)
  (entries[bisect reaches 0 entries.length]?.filter (fun entry => entry.id = id)).map Entry.body

/-- The batch of these entries. -/
def ofEntries (entries : List Entry) : Batch :=
  Ledger.ofList (entries.map (fun entry => (entry.id, entry.body)))

/-- The batch of these documents. -/
def ofDocuments (documents : List Document) : Batch :=
  ofEntries (documents.map Document.entry)

end Batch

end RepoVitals

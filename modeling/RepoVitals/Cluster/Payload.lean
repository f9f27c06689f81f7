import RepoVitals.Batch
import RepoVitals.Json.Printer
/-!
Bulk payloads: documents on the way to the cluster, two lines each.

Owns:
- the line that says what is done with a document, and the payload of a list of documents;
- the way back from a payload to the index, id and body of each document.

The second line is the body as it stands.  It holds no line break, since JSON text has none.
-/

namespace RepoVitals.Cluster

open Json (Value)

/-- What is done with a document: it is indexed under its id. -/
def action (index id : String) : Value :=
  .ofFields [("index", .ofFields [("_index", .text index), ("_id", .text id)])]

/-- The two lines of a document. -/
def documentLines (index : String) (document : Entry) : List (List Char) :=
  [(action index document.id).render, document.body.toList]

/-- The payload of a list of documents; every line ends in a line feed. -/
def payload (index : String) (documents : List Entry) : String :=
  String.ofList ((documents.flatMap (documentLines index)).flatMap (fun line => line ++ ['\n']))

/-! ### The way back -/

/-- The lines of a text, each of which ends in a line feed; `reversed` is the line that is being
read, last character first. -/
def linesFrom? (reversed : List Char) : List Char → Option (List (List Char))
  | [] => if reversed = [] then some [] else none
  | letter :: rest =>
    if letter = '\n' then (linesFrom? [] rest).map (reversed.reverse :: ·)
    else linesFrom? (letter :: reversed) rest

/-- The index and the id that an action names. -/
def addressee? (line : List Char) : Option (String × String) := do
  let named ← (← Value.ofText? (String.ofList line)).field? "index"
  some (← (← named.field? "_index").toText?, ← (← named.field? "_id").toText?)

/-- The documents of lines, two lines each. -/
def documentsOfLines? : List (List Char) → Option (List (String × Entry))
  | [] => some []
  | first :: second :: rest => do
    let (index, id) ← addressee? first
    some ((index, ⟨id, String.ofList second⟩) :: (← documentsOfLines? rest))
  | [_] => none

/-- The documents of a payload, each with its index. -/
def documentsOf? (text : String) : Option (List (String × Entry)) := do
  documentsOfLines? (← linesFrom? [] text.toList)

end RepoVitals.Cluster

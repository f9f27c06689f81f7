import RepoVitals.Bulk.Verdict
import RepoVitals.Json.Printer
import RepoVitals.Json.View
/-!
Bulk answers: what the cluster says about the documents of a payload.

Owns the reading of the body of an answer as a list of verdicts, one for each item that is not
empty, and the words for the error of an item.

An item holds the outcome of its action under the action's name.  An id that is left out is empty; a
status must be given.
-/

namespace RepoVitals.Cluster

open Bulk (Verdict)
open Json (Value View Written)

/-- The error of an item in words: its kind and its reason, its kind alone, or the error as it is
written. -/
def errorText (error : Value) : String :=
  match (error.field? "type").bind Value.toText?, (error.field? "reason").bind Value.toText? with
  | some kind, some reason => kind ++ ": " ++ reason
  | some kind, none => kind
  | none, _ => error.toText

/-- The greatest status of an item. -/
def greatestStatus : Int := UInt16.size - 1

/-- The verdict in the outcome of an action. -/
def verdict? {τ : Type} (view : View τ) (outcome : τ) : Option Verdict := do
  match ← view.record? ["_id", "status", "error"] outcome with
  | [id, some status, error] =>
    some {
      id := ((← view.optional view.text? id).getD "")
      status := (← view.integer? 0 greatestStatus status).toNat
      error := (← view.optional view.value? error).map errorText }
  | _ => none

/-- The verdict of an item, if the item is not empty.  All outcomes of an item must be readable.  Of
several outcomes of one action the last one stays, and of several actions the first one in the order
of names counts. -/
def itemVerdict? {τ : Type} (view : View τ) (item : τ) : Option (Option Verdict) := do
  let outcomes ← view.fields? item
  let verdicts ← outcomes.mapM (fun outcome =>
    (verdict? view outcome.2).map (fun verdict => (outcome.1, verdict)))
  some ((Ledger.ofList verdicts).entries.head?.map Prod.snd)

/-- The verdicts in the body of an answer. -/
def verdictsOf? {τ : Type} (view : View τ) (body : τ) : Option (List Verdict) := do
  match ← view.record? ["items"] body with
  | [some items] =>
    some ((← (← view.items? items).mapM (itemVerdict? view)).filterMap (fun verdict => verdict))
  | _ => some []

/-- The verdicts in an answer. -/
def verdictsOfText? (text : String) : Option (List Verdict) := do
  verdictsOf? View.ofWritten (Json.containerLimit, ← Written.ofText? text)

end RepoVitals.Cluster

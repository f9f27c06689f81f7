import RepoVitals.Json.Value
import RepoVitals.Proofs.Ledger
/-!
Fields of objects that were built from lists.

Owns what `Value.field?` finds in an object made of fields, with and without repeated keys, and
objects made of fields that are already in order.
-/

namespace RepoVitals.Json.Value

theorem ofFields_eq (fields : List (String × Value)) :
    ofFields fields = .object (Ledger.ofList fields).entries := by
  have held : ∀ ledger : Ledger Value,
      fields.foldl (fun held field => insertEntry field.1 field.2 held) ledger.entries =
        (fields.foldl (fun ledger field => ledger.insert field.1 field.2) ledger).entries := by
    induction fields with
    | nil => exact fun _ => rfl
    | cons field rest inductionHypothesis =>
      exact fun ledger => inductionHypothesis (ledger.insert field.1 field.2)
  rw [ofFields, Ledger.ofList, ← held]
  rfl

/-- An object has what was last written under a key. -/
theorem field?_ofFields (fields : List (String × Value)) (key : String) :
    (ofFields fields).field? key = (Ledger.ofList fields).get? key := by
  rw [ofFields_eq]
  rfl

theorem field?_ofFields_of_unrepeated
    {fields : List (String × Value)}
    (unrepeated : Unrepeated fields)
    (key : String) :
    (ofFields fields).field? key = valueUnder? key fields := by
  rw [field?_ofFields, Ledger.get?_ofList unrepeated]

/-- Fields whose keys ascend stay as they are. -/
theorem ofFields_of_ascending {fields : List (String × Value)} (ascending : Ascending fields) :
    ofFields fields = .object fields := by
  have appended : ∀ (field : String × Value) (held : List (String × Value)),
      (∀ other ∈ held, other.1 < field.1) →
      insertEntry field.1 field.2 held = held ++ [field] := by
    intro field held
    induction held with
    | nil => exact fun _ => rfl
    | cons head rest inductionHypothesis =>
      intro greatest
      have below := greatest head List.mem_cons_self
      rw [insertEntry, if_neg (String.lt_asymm below), if_pos below,
        inductionHypothesis (fun other member => greatest other (List.mem_cons_of_mem _ member))]
      rfl
  have held : ∀ held : List (String × Value), Ascending (held ++ fields) →
      fields.foldl (fun held field => insertEntry field.1 field.2 held) held = held ++ fields := by
    clear ascending
    induction fields with
    | nil => exact fun held _ => (List.append_nil held).symm
    | cons field rest inductionHypothesis =>
      intro held ascending
      have greatest : ∀ other ∈ held, other.1 < field.1 := fun other member =>
        (List.pairwise_append.mp ascending).2.2 other member field List.mem_cons_self
      rw [List.append_cons] at ascending ⊢
      rw [List.foldl_cons, appended field held greatest]
      exact inductionHypothesis (held ++ [field]) ascending
  rw [ofFields, held [] ascending]
  rfl

end RepoVitals.Json.Value

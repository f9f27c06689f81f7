import RepoVitals.Json.Value
/-!
Records read from JSON.

Owns:
- the view through which a record is read, either from a value or straight from a written text,
  where repeated keys can still be seen;
- the rule for records: an object gives each field by name, an array gives the fields in order;
- typed readers for the parts of a record.

Reading straight from a written text matters in two ways.  A repeated field of a record is an
error there, and a part that no record asks for may hold anything, even numerals that are too large
and texts that spell no string.
-/

namespace RepoVitals.Json

/-- How a tree of type `τ` is taken apart.  `fields?` keeps order and repetitions. -/
structure View (τ : Type) where
  isNull : τ → Bool
  items? : τ → Option (List τ)
  fields? : τ → Option (List (String × τ))
  value? : τ → Option Value

namespace View

/-- Values are taken apart as they are. -/
def ofValues : View Value where
  isNull
    | .null => true
    | _ => false
  items? := Value.toItems?
  fields?
    | .object fields => some fields
    | _ => none
  value? := some

/-- Key and part of a written field, one level deeper. -/
private def enterField (room : Nat) (field : Option String × Written) :
    Option (String × (Nat × Written)) :=
  field.1.map (fun name => (name, (room, field.2)))

/-- Written texts are taken apart together with the number of containers that may still follow. -/
def ofWritten : View (Nat × Written) where
  isNull
    | (_, .null) => true
    | _ => false
  items?
    | (room + 1, .array items) => some (items.map (fun item => (room, item)))
    | _ => none
  fields?
    | (room + 1, .object fields) => fields.mapM (enterField room)
    | _ => none
  value?
    | (room, whole) => whole.toValue? room

/-- The parts of a record with these field names, in the order of the names.  An object gives a
part for each of its fields that is asked for, at most one each; an array gives the first parts in
order and may be shorter, but not longer. -/
def record? {τ : Type} (view : View τ) (names : List String) (source : τ) :
    Option (List (Option τ)) :=
  match view.fields? source with
  | some fields =>
    names.mapM (fun name =>
      match fields.filter (fun field => field.1 = name) with
      | [] => some none
      | [field] => some (some field.2)
      | _ => none)
  | none =>
    match view.items? source with
    | some items =>
      if names.length < items.length then none
      else some (items.map some ++ List.replicate (names.length - items.length) none)
    | none => none

/-- A part that is an integer between the bounds. -/
def integer? {τ : Type} (view : View τ) (least greatest : Int) (source : τ) : Option Int := do
  match ← view.value? source with
  | .number (.integer value) => if least ≤ value ∧ value ≤ greatest then some value else none
  | _ => none

/-- A part that is a text. -/
def text? {τ : Type} (view : View τ) (source : τ) : Option String := do
  (← view.value? source).toText?

/-- A part that may be left out: `absent` stands for it then. -/
def orElse {τ α : Type} (read : τ → Option α) (absent : α) : Option τ → Option α
  | none => some absent
  | some source => read source

/-- A part that may be left out or null. -/
def optional {τ α : Type} (view : View τ) (read : τ → Option α) : Option τ → Option (Option α)
  | none => some none
  | some source => if view.isNull source then some none else (read source).map some

end View

end RepoVitals.Json

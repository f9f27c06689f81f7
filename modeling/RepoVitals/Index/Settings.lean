import RepoVitals.Json.View
/-!
Index settings: how large a freshly created index may grow.

Owns the settings with their defaults, their body in a creation request, and their reading from
JSON.
-/

namespace RepoVitals.Index

open Json (Value View)

/-- Capacity settings of an index. -/
structure Settings where
  replicas : Nat
  totalFieldsLimit : Nat
  depthLimit : Nat
  nestedFieldsLimit : Nat
  nestedObjectsLimit : Nat
  deriving DecidableEq

namespace Settings

/-- Generous limits for documents with many distinct field values. -/
def standard : Settings := ⟨2, 8000, 300, 800, 8000⟩

/-- The settings under their names in the store. -/
def toValue (settings : Settings) : Value :=
  Value.ofFields
    [("index.number_of_replicas", .integer settings.replicas),
      ("index.mapping.total_fields.limit", .integer settings.totalFieldsLimit),
      ("index.mapping.depth.limit", .integer settings.depthLimit),
      ("index.mapping.nested_fields.limit", .integer settings.nestedFieldsLimit),
      ("index.mapping.nested_objects.limit", .integer settings.nestedObjectsLimit)]

/-- The body of a creation request. -/
def body (settings : Settings) : Value :=
  Value.ofFields [("settings", settings.toValue)]

/-- The greatest value of a setting. -/
def greatest : Nat := UInt32.size - 1

/-- The names of the settings, in order. -/
def fieldNames : List String :=
  ["number_of_replicas", "total_fields_limit", "depth_limit", "nested_fields_limit",
    "nested_objects_limit"]

/-- One setting, or its default if it is left out. -/
private def setting? (absent : Nat) (part : Option Value) : Option Nat :=
  View.orElse (fun value => (View.ofValues.integer? 0 greatest value).map Int.toNat) absent part

/-- The settings that a value describes; whatever is left out has its default. -/
def ofValue? (value : Value) : Option Settings := do
  match ← View.ofValues.record? fieldNames value with
  | [replicas, totalFields, depth, nestedFields, nestedObjects] =>
    some {
      replicas := ← setting? standard.replicas replicas
      totalFieldsLimit := ← setting? standard.totalFieldsLimit totalFields
      depthLimit := ← setting? standard.depthLimit depth
      nestedFieldsLimit := ← setting? standard.nestedFieldsLimit nestedFields
      nestedObjectsLimit := ← setting? standard.nestedObjectsLimit nestedObjects }
  | _ => none

end Settings

end RepoVitals.Index

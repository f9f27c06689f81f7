import RepoVitals.Config.Setting
/-!
Tables that only carry a value.

Owns the two reserved keys of the tables inside a document, and the setting that a document stands
for once every table that carries a value has given way to that value.

The keys mean nothing in the outermost table.
-/

namespace RepoVitals.Toml

open Config (Setting)

/-- The key of the value that a table carries. -/
def carriedKey : String := "___figment_value_value"

/-- The key of a mark that a document cannot give. -/
def markKey : String := "___figment_value_id"

mutual

/-- The setting inside a document.  There is none if some table in it asks for the mark. -/
def unwrap? : Setting → Option Setting
  | .table fields => do
    let parts ← unwrapFields? fields
    if (valueUnder? markKey parts).isSome then none
    else some ((valueUnder? carriedKey parts).getD (.table parts))
  | .list items => (unwrapItems? items).map .list
  | .text content => some (.text content)
  | .letter value => some (.letter value)
  | .boolean value => some (.boolean value)
  | .integer value => some (.integer value)
  | .float value => some (.float value)

/-- The settings of the fields of a table. -/
def unwrapFields? : List (String × Setting) → Option (List (String × Setting))
  | [] => some []
  | (key, part) :: rest => do some ((key, ← unwrap? part) :: (← unwrapFields? rest))

/-- The settings of the items of a list. -/
def unwrapItems? : List Setting → Option (List Setting)
  | [] => some []
  | item :: rest => do some ((← unwrap? item) :: (← unwrapItems? rest))

end

end RepoVitals.Toml

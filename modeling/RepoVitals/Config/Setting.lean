import RepoVitals.Binary64.Basic
import RepoVitals.Ledger
/-!
Settings as their sources give them, before anybody asks what they are for.

Owns:
- the settings, with the fields of a table in ascending key order;
- laying one setting over another, where tables meet field by field and anything else is replaced;
- a setting deep inside otherwise empty tables.
-/

namespace RepoVitals.Config

/-- A setting.  A letter is a text of one character that can only stand for a text. -/
inductive Setting where
  | text (content : String)
  | letter (value : Char)
  | boolean (value : Bool)
  | integer (value : Int)
  | float (value : Binary64)
  | list (items : List Setting)
  | table (fields : List (String × Setting))

namespace Setting

instance : Inhabited Setting := ⟨.table []⟩

/-- The table with these fields; the last of several with one key stays. -/
def ofFields (fields : List (String × Setting)) : Setting :=
  .table (fields.foldl (fun held field => insertEntry field.1 field.2 held) [])

/-- The setting under a path of keys, in tables that hold nothing else. -/
def nested (path : List String) (setting : Setting) : Setting :=
  path.foldr (fun key inner => .table [(key, inner)]) setting

mutual

/-- Lay a setting over another one: two tables are combined, otherwise the upper one stays. -/
def overlay (below : Setting) : Setting → Setting
  | .table above =>
    match below with
    | .table held => .table (overlayFields held above)
    | _ => .table above
  | .text content => .text content
  | .letter value => .letter value
  | .boolean value => .boolean value
  | .integer value => .integer value
  | .float value => .float value
  | .list items => .list items

/-- Lay fields over the fields of a table, one by one. -/
def overlayFields (held : List (String × Setting)) :
    List (String × Setting) → List (String × Setting)
  | [] => held
  | (key, part) :: rest =>
    let combined :=
      match valueUnder? key held with
      | some old => overlay old part
      | none => part
    overlayFields (insertEntry key combined held) rest

end

end Setting

end RepoVitals.Config

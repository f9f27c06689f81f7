import RepoVitals.Config.Setting
/-!
Records read from settings.

Owns:
- the faults of a setting, each with the path of keys to the place it is at;
- the rule for records: a table gives each field under its name or another spelling of it, at most
  once; a list gives the first fields in order;
- readers for texts, numbers, truth values, lists and the fields of a record.

A table is read in ascending key order and its first fault counts; a field that is missing is
noticed after that.  What no field asks for may be anything.
-/

namespace RepoVitals.Config

/-! ### Faults -/

/-- What is wrong. -/
inductive Defect where
  /-- A source could not be read at all. -/
  | unreadable
  | wrongType
  | outOfRange
  /-- A list ends before a field that must be given. -/
  | tooShort
  | unknownName (name : String)
  | missingField (name : String)
  | repeatedField (name : String)
  deriving DecidableEq

/-- What is wrong and where. -/
structure Fault where
  defect : Defect
  path : List String
  deriving DecidableEq

/-- A fault seen from the table or list around it. -/
def Fault.under (fault : Fault) (key : String) : Fault :=
  { fault with path := key :: fault.path }

/-- The outcome of reading a setting. -/
abbrev Reading (α : Type) := Except Fault α

/-- A fault right here. -/
def fault {α : Type} (defect : Defect) : Reading α := .error ⟨defect, []⟩

/-- Say of a fault that it lies under a key. -/
def Reading.under {α : Type} (reading : Reading α) (key : String) : Reading α :=
  reading.mapError (fun fault => fault.under key)

/-! ### Plain readers -/

namespace Setting

/-- A text. -/
def readText : Setting → Reading String
  | .text content => .ok content
  | .letter value => .ok (String.ofList [value])
  | _ => fault .wrongType

/-- A natural number up to a bound. -/
def readNatural (greatest : Nat) : Setting → Reading Nat
  | .integer value =>
    if 0 ≤ value ∧ value ≤ greatest then .ok value.toNat else fault .outOfRange
  | _ => fault .wrongType

/-- A truth value. -/
def readBoolean : Setting → Reading Bool
  | .boolean value => .ok value
  | _ => fault .wrongType

/-- The items of a list from a position on. -/
def readItems {α : Type} (read : Setting → Reading α) (position : Nat) :
    List Setting → Reading (List α)
  | [] => .ok []
  | item :: rest => do
    let first ← (read item).under (String.ofList (Nat.toDigits 10 position))
    return first :: (← readItems read (position + 1) rest)

/-- A list. -/
def readList {α : Type} (read : Setting → Reading α) : Setting → Reading (List α)
  | .list items => readItems read 0 items
  | _ => fault .wrongType

end Setting

/-! ### Records -/

/-- A field of a record: its name, its other spellings, whether it must be given, and what its part
has to be. -/
structure Field where
  name : String
  spellings : List String
  required : Bool
  check : Setting → Reading Unit

namespace Field

/-- A field whose part is read like this. -/
def of {α : Type} (read : Setting → Reading α) (name : String) (spellings : List String)
    (required : Bool) : Field :=
  ⟨name, spellings, required, fun part => (read part).map (fun _ => ())⟩

/-- The key is the name of the field or another spelling of it. -/
def answersTo (field : Field) (key : String) : Bool :=
  field.name = key || field.spellings.contains key

end Field

/-- The parts of a record under the names of their fields. -/
abbrev Parts := List (String × Setting)

/-- The parts that the entries of a table give; `seen` are the fields that have theirs already. -/
def partsOfEntries (fields : List Field) (seen : List String) :
    List (String × Setting) → Reading Parts
  | [] => .ok []
  | (key, part) :: rest =>
    match fields.find? (fun field => field.answersTo key) with
    | none => partsOfEntries fields seen rest
    | some field =>
      if seen.contains field.name then fault (.repeatedField field.name)
      else do
        (field.check part).under key
        return (field.name, part) :: (← partsOfEntries fields (field.name :: seen) rest)

/-- The parts that the items of a list give, from a position on; items without a field are left
alone. -/
def partsOfItems (position : Nat) : List Field → List Setting → Reading Parts
  | field :: fields, item :: items => do
    (field.check item).under (String.ofList (Nat.toDigits 10 position))
    return (field.name, item) :: (← partsOfItems (position + 1) fields items)
  | _, _ => .ok []

/-- The parts, if no field that must be given is missing. -/
def requireFields (fields : List Field) (defect : Field → Defect) (parts : Parts) :
    Reading Parts :=
  match fields.find? (fun field => field.required && (valueUnder? field.name parts).isNone) with
  | some field => fault (defect field)
  | none => .ok parts

/-- The parts of a record with these fields. -/
def Setting.readRecord (fields : List Field) : Setting → Reading Parts
  | .table entries => do
    requireFields fields (fun field => .missingField field.name)
      (← partsOfEntries fields [] entries)
  | .list items => do
    requireFields fields (fun _ => .tooShort) (← partsOfItems 0 fields items)
  | _ => fault .wrongType

/-- The part of a field, read, or `absent` if it is left out. -/
def Parts.read {α : Type} (parts : Parts) (name : String) (read : Setting → Reading α)
    (absent : α) : Reading α :=
  match valueUnder? name parts with
  | some part => read part
  | none => .ok absent

end RepoVitals.Config

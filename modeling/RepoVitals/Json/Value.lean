import RepoVitals.Ledger
import RepoVitals.Json.Written
/-!
JSON values.

Owns:
- the values, with the fields of an object in ascending key order and no key twice;
- the meaning of a written text as a value: the last of several fields with one key stays, and
  numerals become numbers;
- the views through which the rest of the library looks into a value it did not make.

At most 127 containers may stand inside one another.
-/

namespace RepoVitals.Json

/-- A JSON value. -/
inductive Value where
  | null
  | boolean (value : Bool)
  | number (value : Number)
  | text (content : String)
  | array (items : List Value)
  | object (fields : List (String × Value))

namespace Value

instance : Inhabited Value := ⟨.null⟩

/-! ### Building -/

/-- The object with these fields; the last of several with one key stays. -/
def ofFields (fields : List (String × Value)) : Value :=
  .object (fields.foldl (fun held field => insertEntry field.1 field.2 held) [])

/-- An integer as a value. -/
def integer (value : Int) : Value := .number (.integer value)

/-- A list of texts as a value. -/
def texts (contents : List String) : Value := .array (contents.map .text)

/-- A text, or null for none. -/
def optionalText : Option String → Value
  | none => .null
  | some content => .text content

/-! ### Looking inside -/

/-- The value of a field, if the value is an object that has it. -/
def field? (key : String) : Value → Option Value
  | .object fields => valueUnder? key fields
  | _ => none

/-- The content, if the value is a text. -/
def toText? : Value → Option String
  | .text content => some content
  | _ => none

/-- The items, if the value is an array. -/
def toItems? : Value → Option (List Value)
  | .array items => some items
  | _ => none

/-- The integer, if the value is a number that is a signed 64-bit integer. -/
def toInt64? : Value → Option Int
  | .number value => value.toInt64?
  | _ => none

/-- The nearest floating-point number, if the value is a number. -/
def toBinary64? : Value → Option Binary64
  | .number value => some value.toBinary64
  | _ => none

end Value

/-! ### The value of a written text -/

/-- How many containers may stand inside one another. -/
def containerLimit : Nat := 127

mutual

/-- The value that a written text means, if its texts are strings, its numerals are not too large,
and at most `room` containers stand inside one another. -/
def Written.toValue? (room : Nat) : Written → Option Value
  | .null => some .null
  | .boolean value => some (.boolean value)
  | .number numeral => numeral.number?.map .number
  | .text content => content.map .text
  | .array items =>
    if room = 0 then none else (Written.toValues? (room - 1) items).map .array
  | .object fields =>
    if room = 0 then none else (Written.toFields? (room - 1) fields).map Value.ofFields

/-- The values of the items of an array. -/
def Written.toValues? (room : Nat) : List Written → Option (List Value)
  | [] => some []
  | item :: rest => do
    let value ← Written.toValue? room item
    let values ← Written.toValues? room rest
    some (value :: values)

/-- The fields of an object as written, in order. -/
def Written.toFields? (room : Nat) :
    List (Option String × Written) → Option (List (String × Value))
  | [] => some []
  | (key, part) :: rest => do
    let name ← key
    let value ← Written.toValue? room part
    let fields ← Written.toFields? room rest
    some ((name, value) :: fields)

end

/-- The value of a JSON text. -/
def Value.ofText? (text : String) : Option Value := do
  let whole ← Written.ofText? text
  whole.toValue? containerLimit

end RepoVitals.Json

import RepoVitals.Json.Token
import RepoVitals.Json.Number
/-!
Written JSON: the tree of a JSON text with everything that its spelling says.

Owns:
- the tree, in which fields keep their order and repetitions, numbers are still numerals, and quoted
  text may spell no string;
- the reader that builds the tree from tokens, one token at a time, with the containers that are
  still open on a stack.

What a written text means as a value, and what of it is an error, is decided where it is used.
-/

namespace RepoVitals.Json

/-- A JSON text as written. -/
inductive Written where
  | null
  | boolean (value : Bool)
  | number (numeral : Numeral)
  | text (content : Option String)
  | array (items : List Written)
  | object (fields : List (Option String × Written))

namespace Written

/-- A container that is still open: its finished parts, last first, and the key of the part that is
being read. -/
inductive Frame where
  | item (reversed : List Written)
  | field (key : Option String) (reversed : List (Option String × Written))

/-- What may follow, with the containers around it, innermost first. -/
inductive Reader where
  | value (frames : List Frame)
  | firstItem (frames : List Frame)
  | firstKey (frames : List Frame)
  | nextKey (reversed : List (Option String × Written)) (frames : List Frame)
  | colon (key : Option String) (reversed : List (Option String × Written)) (frames : List Frame)
  | afterItem (reversed : List Written) (frames : List Frame)
  | afterField (reversed : List (Option String × Written)) (frames : List Frame)
  | finished (whole : Written)

namespace Reader

/-- A value has been read to its end: hand it to the container around it. -/
def complete (whole : Written) : List Frame → Reader
  | [] => .finished whole
  | .item reversed :: frames => .afterItem (whole :: reversed) frames
  | .field key reversed :: frames => .afterField ((key, whole) :: reversed) frames

/-- The value that a bare word is. -/
def ofWord? (letters : List Char) : Option Written :=
  if letters = ['n', 'u', 'l', 'l'] then some .null
  else if letters = ['t', 'r', 'u', 'e'] then some (.boolean true)
  else if letters = ['f', 'a', 'l', 's', 'e'] then some (.boolean false)
  else (Numeral.ofLetters? letters).map .number

/-- Read a token where a value must start. -/
def stepValue (frames : List Frame) : Token → Option Reader
  | .openArray => some (.firstItem frames)
  | .openObject => some (.firstKey frames)
  | .text content => some (complete (.text content) frames)
  | .word letters => (ofWord? letters).map (fun whole => complete whole frames)
  | _ => none

/-- Read one token. -/
def step : Reader → Token → Option Reader
  | .value frames, token => stepValue frames token
  | .firstItem frames, .closeArray => some (complete (.array []) frames)
  | .firstItem frames, token => stepValue (.item [] :: frames) token
  | .firstKey frames, .closeObject => some (complete (.object []) frames)
  | .firstKey frames, .text content => some (.colon content [] frames)
  | .nextKey reversed frames, .text content => some (.colon content reversed frames)
  | .colon key reversed frames, .colon => some (.value (.field key reversed :: frames))
  | .afterItem reversed frames, .comma => some (.value (.item reversed :: frames))
  | .afterItem reversed frames, .closeArray => some (complete (.array reversed.reverse) frames)
  | .afterField reversed frames, .comma => some (.nextKey reversed frames)
  | .afterField reversed frames, .closeObject =>
    some (complete (.object reversed.reverse) frames)
  | _, _ => none

end Reader

/-- The tree that a list of tokens spells. -/
def ofTokens? (tokens : List Token) : Option Written := do
  match ← tokens.foldlM Reader.step (.value []) with
  | .finished whole => some whole
  | _ => none

/-- The tree of a JSON text. -/
def ofText? (text : String) : Option Written := do
  let tokens ← tokens? text.toList
  ofTokens? tokens

end Written

end RepoVitals.Json

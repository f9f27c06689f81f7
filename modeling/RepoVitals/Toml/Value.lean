import RepoVitals.Toml.Scalar
import RepoVitals.Toml.Table
import RepoVitals.Toml.Token
/-!
TOML keys and values.

Owns:
- keys with dots, as written in a line, a header or an inline table;
- a reader that builds a value from tokens, one token at a time, with the lists and inline tables
  that are still open on a stack.

Lists may run over several lines and end in a comma; inline tables may not.
-/

namespace RepoVitals.Toml

open Config (Setting)

/-! ### Keys -/

/-- How many parts a key may have, and how many lists and inline tables may stand inside one
another. -/
def depthLimit : Nat := 79

/-- The characters of bare keys. -/
def isKeyLetter (letter : Char) : Bool :=
  letter.isAlphanum || letter = '_' || letter = '-'

/-- A piece of a key: a dot, or a part. -/
inductive Piece where
  | dot
  | part (name : String)
  deriving DecidableEq

/-- The pieces of a word; `reversed` is the part that is being read, last character first. -/
def wordPieces? (reversed : List Char) : List Char → Option (List Piece)
  | [] => some (if reversed = [] then [] else [.part (String.ofList reversed.reverse)])
  | '.' :: rest => do
    let pieces ← wordPieces? [] rest
    some (if reversed = [] then .dot :: pieces
      else .part (String.ofList reversed.reverse) :: .dot :: pieces)
  | letter :: rest => if isKeyLetter letter then wordPieces? (letter :: reversed) rest else none

/-- The pieces of the tokens of a key. -/
def pieces? : List Token → Option (List Piece)
  | [] => some []
  | .blank _ :: rest => pieces? rest
  | .word letters :: rest => do some ((← wordPieces? [] letters) ++ (← pieces? rest))
  | .text content false :: rest => do some (.part content :: (← pieces? rest))
  | _ => none

/-- The parts of a key: parts and dots take turns, a part comes first and last. -/
def parts? : List Piece → Option (List String)
  | [.part name] => some [name]
  | .part name :: .dot :: rest => (parts? rest).map (name :: ·)
  | _ => none

/-- A key: the path to its table and its own name. -/
structure Key where
  path : List String
  name : String
  deriving DecidableEq

/-- The key that tokens spell. -/
def Key.ofTokens? (tokens : List Token) : Option Key := do
  let parts ← parts? (← pieces? tokens)
  if depthLimit < parts.length then none
  else some ⟨parts.dropLast, ← parts.getLast?⟩

/-! ### Values -/

/-- A list or an inline table that is still open: the finished items, last first, or the finished
fields and the key of the field that is being read. -/
inductive Frame where
  | item (reversed : List Setting)
  | field (key : Key) (fields : Table)

/-- What may follow, with the lists and inline tables around it, innermost first. -/
inductive Reader where
  | value (frames : List Frame)
  /-- An item of a list, or the end of the list. -/
  | nextItem (reversed : List Setting) (frames : List Frame)
  /-- The key of a field, of which some tokens have been read, last first; `first` if the inline
  table may also end here. -/
  | fieldKey (first : Bool) (tokens : List Token) (fields : Table) (frames : List Frame)
  | afterItem (reversed : List Setting) (frames : List Frame)
  | afterField (fields : Table) (frames : List Frame)
  | finished (whole : Setting)

namespace Reader

/-- A value has been read to its end: hand it to what is open around it. -/
def complete (whole : Setting) : List Frame → Option Reader
  | [] => some (.finished whole)
  | .item reversed :: frames => some (.afterItem (whole :: reversed) frames)
  | .field key fields :: frames =>
    (fields.set key.path key.name whole).map (.afterField · frames)

/-- Read a token where a value must start. -/
def stepValue (frames : List Frame) : Token → Option Reader
  | .openBracket => if frames.length < depthLimit then some (.nextItem [] frames) else none
  | .openBrace =>
    if frames.length < depthLimit then some (.fieldKey true [] (.empty .opened) frames) else none
  | .text content _ => complete (.text content) frames
  | .word letters => do complete (← scalar? letters) frames
  | _ => none

/-- Read a token of the key of a field. -/
def stepKey (first : Bool) (tokens : List Token) (fields : Table) (frames : List Frame) :
    Token → Option Reader
  | .equals => do some (.value (.field (← Key.ofTokens? tokens.reverse) fields :: frames))
  | .closeBrace => if first ∧ tokens = [] then complete fields.setting frames else none
  | token => some (.fieldKey first (token :: tokens) fields frames)

/-- Read one token; the tokens hold no blanks. -/
def step (reader : Reader) (token : Token) : Option Reader :=
  match reader, token with
  | .value frames, token => stepValue frames token
  | .nextItem reversed frames, .closeBracket => complete (.list reversed.reverse) frames
  | .nextItem reversed frames, .lineEnd => some (.nextItem reversed frames)
  | .nextItem reversed frames, token => stepValue (.item reversed :: frames) token
  | .fieldKey first tokens fields frames, token => stepKey first tokens fields frames token
  | .afterItem reversed frames, .comma => some (.nextItem reversed frames)
  | .afterItem reversed frames, .closeBracket => complete (.list reversed.reverse) frames
  | .afterItem reversed frames, .lineEnd => some (.afterItem reversed frames)
  | .afterField fields frames, .comma => some (.fieldKey false [] fields frames)
  | .afterField fields frames, .closeBrace => complete fields.setting frames
  | _, _ => none

end Reader

/-- Write a date and a time of day that a single space separates as one word. -/
def joinMoments : List Token → List Token
  | .word date :: .blank [' '] :: .word time :: rest =>
    if isDate date ∧ isTimeWithOffset time then .word (date ++ 'T' :: time) :: joinMoments rest
    else .word date :: .blank [' '] :: joinMoments (.word time :: rest)
  | token :: rest => token :: joinMoments rest
  | [] => []

/-- The token is a blank. -/
def Token.isBlank : Token → Bool
  | .blank _ => true
  | _ => false

/-- The value that tokens spell. -/
def value? (tokens : List Token) : Option Setting := do
  let meaningful := (joinMoments tokens).filter (fun token => !token.isBlank)
  match ← meaningful.foldlM Reader.step (.value []) with
  | .finished whole => some whole
  | _ => none

end RepoVitals.Toml

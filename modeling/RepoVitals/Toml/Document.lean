import RepoVitals.Toml.Carrier
import RepoVitals.Toml.Value
/-!
TOML documents.

Owns:
- the split of a document into lines, where a line goes on as long as a list or inline table is
  open;
- the three kinds of line: a key with its value, the header of a table, the header of the next table
  of a list;
- the settings of a whole document.
-/

namespace RepoVitals.Toml

open Config (Setting)

/-! ### Lines -/

/-- Lines that are being gathered: the finished ones, last first, the tokens of the current one,
last first, and how many brackets and braces are open in it. -/
structure Gathering where
  lines : List (List Token)
  current : List Token
  depth : Nat

/-- Take one more token in. -/
def Gathering.add (gathering : Gathering) (token : Token) : Gathering :=
  match token with
  | .lineEnd =>
    if gathering.depth = 0 then ⟨gathering.current.reverse :: gathering.lines, [], 0⟩
    else { gathering with current := token :: gathering.current }
  | .openBracket | .openBrace =>
    { gathering with current := token :: gathering.current, depth := gathering.depth + 1 }
  | .closeBracket | .closeBrace =>
    { gathering with current := token :: gathering.current, depth := gathering.depth - 1 }
  | _ => { gathering with current := token :: gathering.current }

/-- The lines of a document. -/
def linesOf (tokens : List Token) : List (List Token) :=
  let gathering := tokens.foldl Gathering.add ⟨[], [], 0⟩
  (gathering.current.reverse :: gathering.lines).reverse

/-- What a line does. -/
inductive Line where
  | nothing
  | setting (key : Key) (value : Setting)
  | opening (key : Key)
  | openingNext (key : Key)

/-- The key between the brackets of a header. -/
def headerKey? (brackets : Nat) (line : List Token) : Option Key :=
  let inner := (line.drop brackets).take (line.length - 2 * brackets)
  let closing := line.drop (line.length - brackets)
  if closing = List.replicate brackets .closeBracket then Key.ofTokens? inner else none

/-- What a line does, given without blanks at its ends. -/
def Line.ofTokens? : List Token → Option Line
  | [] => some .nothing
  | .openBracket :: .openBracket :: rest =>
    (headerKey? 2 (.openBracket :: .openBracket :: rest)).map .openingNext
  | .openBracket :: rest => (headerKey? 1 (.openBracket :: rest)).map .opening
  | tokens =>
    match tokens.dropWhile (· ≠ .equals) with
    | .equals :: value => do
      some (.setting (← Key.ofTokens? (tokens.takeWhile (· ≠ .equals))) (← value? value))
    | _ => none

/-- A line without blanks at its ends. -/
def trimLine (line : List Token) : List Token :=
  ((line.dropWhile Token.isBlank).reverse.dropWhile Token.isBlank).reverse

/-! ### Documents -/

/-- A document that is being read: all its tables, and the path of the one that keys go into. -/
structure Draft where
  root : Table
  place : List String

/-- Take one more line in. -/
def Draft.add (draft : Draft) (line : List Token) : Option Draft := do
  match ← Line.ofTokens? (trimLine line) with
  | .nothing => some draft
  | .setting key value =>
    let root ← draft.root.change .passed draft.place
      (fun table => table.set key.path key.name value)
    some { draft with root := root }
  | .opening key =>
    some ⟨← draft.root.openTable key.path key.name, key.path ++ [key.name]⟩
  | .openingNext key =>
    some ⟨← draft.root.openNext key.path key.name, key.path ++ [key.name]⟩

/-- Write every line end as a line feed alone. -/
def plainLineEnds : List Char → List Char
  | '\r' :: '\n' :: rest => '\n' :: plainLineEnds rest
  | letter :: rest => letter :: plainLineEnds rest
  | [] => []

/-- The text without the mark that may stand in front of it. -/
def withoutMark : List Char → List Char
  | '\uFEFF' :: rest => rest
  | letters => letters

/-- The settings of a document, if it is one. -/
def document? (text : String) : Option Setting := do
  let tokens ← tokens? (plainLineEnds (withoutMark text.toList))
  let draft ← (linesOf tokens).foldlM Draft.add ⟨.empty .opened, []⟩
  (unwrapFields? (Node.fields draft.root.entries)).map .table

end RepoVitals.Toml

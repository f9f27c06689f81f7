import RepoVitals.Binary64.Reading
import RepoVitals.Config.Quoted
import RepoVitals.Config.Setting
import RepoVitals.Text.Blank
import RepoVitals.Text.Bytes
/-!
Literals: the settings that the values of environment variables stand for.

Owns:
- bare literals: `true` and `false`, numbers, and any other run of characters as text;
- quoted texts;
- a reader for lists, tables, quoted texts and single letters, one character at a time, with the
  lists and tables that are still open on a stack;
- the setting of a whole value, which is the value itself as text unless all of it is one literal.
-/

namespace RepoVitals.Config

/-! ### Bare literals -/

/-- The greatest integer without a sign that a literal stands for. -/
def greatestUnsigned : Nat := UInt64.size - 1

/-- The integer that a literal stands for: with a minus sign in 64 bits with sign, otherwise in 64
bits without. -/
def literalInteger? (letters : List Char) : Option Int :=
  let (negative, digits) := Binary64.takeSign letters
  if digits = [] ∨ !digits.all Char.isDigit then none
  else
    let magnitude := Binary64.naturalOfDigits digits
    if negative then
      if Binary64.leastInt64 ≤ -(magnitude : Int) then some (-(magnitude : Int)) else none
    else if magnitude ≤ greatestUnsigned then some magnitude
    else none

/-- The setting of a bare literal that is no truth value: a number with a point, an integer, or
text. -/
def plainLiteral (letters : List Char) : Setting :=
  let content := String.ofList letters
  match if letters.contains '.' then Binary64.ofText? content else none,
    literalInteger? letters with
  | some value, _ => .float value
  | none, some value => .integer value
  | none, none => .text content

/-- The blanks around the parts of a literal. -/
def isLiteralBlank (letter : Char) : Bool :=
  letter = ' ' || letter = '\t' || letter = '\n' || letter = '\x0c' || letter = '\r'

/-- The setting of a bare literal.  One that starts with a truth value must end with it. -/
def bareLiteral? (letters : List Char) : Option Setting :=
  if ['t', 'r', 'u', 'e'].isPrefixOf letters then
    if (letters.drop 4).all isLiteralBlank then some (.boolean true) else none
  else if ['f', 'a', 'l', 's', 'e'].isPrefixOf letters then
    if (letters.drop 5).all isLiteralBlank then some (.boolean false) else none
  else some (plainLiteral (Text.trimBlanks letters))

/-! ### Quoted texts -/

/-- The text between two double quotes of a literal.  In front of its first escape, only as many
bytes count as there are characters. -/
def quotedLiteral? (letters : List Char) : Option String :=
  let front := letters.takeWhile (· ≠ '\\')
  (Quoted.content? false letters).map (fun content =>
    if front.length = letters.length then content
    else String.ofList (Text.takeBytes front.length front ++ content.toList.drop front.length))

/-! ### The reader -/

namespace Literal

/-- A list or a table that is still open: its finished parts, last first, and the key of the field
that is being read. -/
inductive Frame where
  | item (reversed : List Setting)
  | field (key : String) (reversed : List (String × Setting))

/-- What the reader is in the middle of, with the lists and tables around it, innermost first. -/
inductive Reader where
  | start (frames : List Frame)
  | bare (reversed : List Char) (frames : List Frame)
  | quoted (reversed : List Char) (escaped : Bool) (frames : List Frame)
  /-- Between single quotes; `some` letter has been read. -/
  | single (letter : Option Char) (frames : List Frame)
  /-- Where an item starts, or the list ends. -/
  | nextItem (reversed : List Setting) (frames : List Frame)
  /-- Where a key starts, or the table ends. -/
  | nextKey (reversed : List (String × Setting)) (frames : List Frame)
  /-- Before a key that must come. -/
  | beforeKey (reversed : List (String × Setting)) (frames : List Frame)
  | bareKey (letters : List Char) (reversed : List (String × Setting)) (frames : List Frame)
  | quotedKey (letters : List Char) (escaped : Bool) (reversed : List (String × Setting))
      (frames : List Frame)
  | afterKey (key : String) (reversed : List (String × Setting)) (frames : List Frame)
  /-- After a value; the innermost list or table holds it already. -/
  | after (whole : Setting) (frames : List Frame)

namespace Reader

/-- The characters that end a bare literal. -/
def isSeparator (letter : Char) : Bool :=
  letter = ',' || letter = '{' || letter = '}' || letter = '[' || letter = ']'

/-- The characters of bare keys. -/
def isKeyLetter (letter : Char) : Bool :=
  letter.isAlphanum || letter = '_' || letter = '-'

/-- Read a character after a value. -/
def stepAfter (whole : Setting) (frames : List Frame) (letter : Char) : Option Reader :=
  if isLiteralBlank letter then some (.after whole frames)
  else
    match frames with
    | .item reversed :: outer =>
      if letter = ',' then some (.nextItem (whole :: reversed) outer)
      else if letter = ']' then some (.after (.list (whole :: reversed).reverse) outer)
      else none
    | .field key reversed :: outer =>
      let fields := (key, whole) :: reversed
      if letter = ',' then some (.nextKey fields outer)
      else if letter = '}' then some (.after (.ofFields fields.reverse) outer)
      else none
    | [] => none

/-- A bare literal ends at a separator, which is read too. -/
def endBare (reversed : List Char) (frames : List Frame) (letter : Char) : Option Reader := do
  stepAfter (← bareLiteral? reversed.reverse) frames letter

/-- Read a character where a value starts. -/
def stepStart (frames : List Frame) (letter : Char) : Option Reader :=
  if isLiteralBlank letter then some (.start frames)
  else if letter = '{' then some (.nextKey [] frames)
  else if letter = '[' then some (.nextItem [] frames)
  else if letter = '"' then some (.quoted [] false frames)
  else if letter = '\'' then some (.single none frames)
  else if isSeparator letter then endBare [] frames letter
  else some (.bare [letter] frames)

/-- Read a character where a key starts. -/
def stepKey (reversed : List (String × Setting)) (frames : List Frame) (letter : Char) :
    Option Reader :=
  if isLiteralBlank letter then some (.beforeKey reversed frames)
  else if letter = '"' then some (.quotedKey [] false reversed frames)
  else if isKeyLetter letter then some (.bareKey [letter] reversed frames)
  else none

/-- Read a character after a key. -/
def stepAfterKey (key : String) (reversed : List (String × Setting)) (frames : List Frame)
    (letter : Char) : Option Reader :=
  if isLiteralBlank letter then some (.afterKey key reversed frames)
  else if letter = '=' then some (.start (.field key reversed :: frames))
  else none

/-- Read one character. -/
def step (reader : Reader) (letter : Char) : Option Reader :=
  match reader with
  | .start frames => stepStart frames letter
  | .bare reversed frames =>
    if isSeparator letter then endBare reversed frames letter
    else some (.bare (letter :: reversed) frames)
  | .quoted reversed escaped frames =>
    if letter = '"' ∧ ¬escaped then do
      some (.after (.text (← quotedLiteral? reversed.reverse)) frames)
    else some (.quoted (letter :: reversed) (!escaped && letter = '\\') frames)
  | .single none frames => some (.single (some letter) frames)
  | .single (some held) frames =>
    if letter = '\'' then some (.after (.letter held) frames) else none
  | .nextItem reversed frames =>
    if letter = ']' then some (.after (.list reversed.reverse) frames)
    else stepStart (.item reversed :: frames) letter
  | .nextKey reversed frames =>
    if letter = '}' then some (.after (.ofFields reversed.reverse) frames)
    else stepKey reversed frames letter
  | .beforeKey reversed frames => stepKey reversed frames letter
  | .bareKey letters reversed frames =>
    if isKeyLetter letter then some (.bareKey (letter :: letters) reversed frames)
    else stepAfterKey (String.ofList letters.reverse) reversed frames letter
  | .quotedKey letters escaped reversed frames =>
    if letter = '"' ∧ ¬escaped then do
      some (.afterKey (← quotedLiteral? letters.reverse) reversed frames)
    else
      some (.quotedKey (letter :: letters) (!escaped && letter = '\\') reversed frames)
  | .afterKey key reversed frames => stepAfterKey key reversed frames letter
  | .after whole frames => stepAfter whole frames letter

/-- The setting, if everything that was opened has been closed. -/
def finish : Reader → Option Setting
  | .start [] => bareLiteral? []
  | .bare reversed [] => bareLiteral? reversed.reverse
  | .after whole [] => some whole
  | _ => none

end Reader

end Literal

/-- The setting that the value of a variable stands for. -/
def Setting.ofLiteral (value : String) : Setting :=
  ((value.toList.foldlM Literal.Reader.step (.start [])).bind Literal.Reader.finish).getD
    (.text value)

end RepoVitals.Config

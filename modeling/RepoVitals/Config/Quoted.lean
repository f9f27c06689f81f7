import RepoVitals.Text.Numeral
/-!
Text between double quotes, with its escapes.

Owns the reading of such a text, one character at a time: one-letter escapes, escapes with four or
eight hexadecimal digits, and, in texts of several lines, a backslash at the end of a line that
swallows every blank and line break after it.

Control characters other than the tab do not occur between quotes.
-/

namespace RepoVitals.Config.Quoted

/-- The character may stand for itself in a text: no control character but the tab. -/
def isPlain (letter : Char) : Bool :=
  letter = '\t' || (0x20 ≤ letter.toNat && letter.toNat ≠ 0x7F)

/-- The character that a one-letter escape stands for. -/
def shortEscape? : Char → Option Char
  | '"' => some '"'
  | '\\' => some '\\'
  | 'b' => some '\x08'
  | 'f' => some '\x0c'
  | 'n' => some '\n'
  | 'r' => some '\r'
  | 't' => some '\t'
  | _ => none

/-- The character with this code point, if there is one. -/
def scalar? (value : Nat) : Option Char :=
  if isScalar : value.isValidChar then some (Char.ofNatAux value isScalar) else none

/-- What the reader is in the middle of.  A code lacks `missing + 1` digits; a line end has or has
not yet seen its line break. -/
inductive Mode where
  | plain
  | escape
  | code (missing value : Nat)
  | lineEnd (broken : Bool)
  deriving DecidableEq

/-- A text that is being read: its characters, last first, and what the reader is in the middle
of. -/
structure Reader where
  reversed : List Char
  mode : Mode
  deriving DecidableEq

namespace Reader

/-- Read a character outside an escape. -/
def stepPlain (long : Bool) (reversed : List Char) (letter : Char) : Option Reader :=
  if letter = '\\' then some ⟨reversed, .escape⟩
  else if isPlain letter ∨ (long ∧ letter = '\n') then some ⟨letter :: reversed, .plain⟩
  else none

/-- Read one character of a text, which may have several lines if it is `long`. -/
def step (long : Bool) (reader : Reader) (letter : Char) : Option Reader :=
  match reader.mode with
  | .plain => stepPlain long reader.reversed letter
  | .escape =>
    if letter = 'u' then some { reader with mode := .code 3 0 }
    else if letter = 'U' then some { reader with mode := .code 7 0 }
    else if long ∧ (letter = ' ' ∨ letter = '\t' ∨ letter = '\n') then
      some { reader with mode := .lineEnd (letter = '\n') }
    else (shortEscape? letter).map (fun plain => ⟨plain :: reader.reversed, .plain⟩)
  | .code missing value => do
    let read := 16 * value + (← Text.hexValue? letter)
    match missing with
    | 0 => (scalar? read).map (fun coded => ⟨coded :: reader.reversed, .plain⟩)
    | fewer + 1 => some { reader with mode := .code fewer read }
  | .lineEnd broken =>
    if letter = '\n' then some { reader with mode := .lineEnd true }
    else if letter = ' ' ∨ letter = '\t' then some reader
    else if broken then stepPlain long reader.reversed letter
    else none

/-- The text, if it does not end inside an escape. -/
def finish (reader : Reader) : Option String :=
  match reader.mode with
  | .plain | .lineEnd true => some (String.ofList reader.reversed.reverse)
  | _ => none

end Reader

/-- The text that is written between two double quotes. -/
def content? (long : Bool) (letters : List Char) : Option String := do
  (← letters.foldlM (Reader.step long) ⟨[], .plain⟩).finish

end RepoVitals.Config.Quoted

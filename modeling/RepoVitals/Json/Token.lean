import RepoVitals.Text.Numeral
/-!
JSON tokens: brackets, commas, colons, quoted texts and bare words.

Owns:
- a scanner that takes one character at a time and never looks back;
- quoted text with its escapes, where a surrogate escape counts only as half of a pair;
- bare words (numbers and `true`, `false`, `null`), which run up to the next other character.

A quoted text that holds half a surrogate pair has no content, but is still a token: whether that
is an error depends on whether anybody wants to know the text.
-/

namespace RepoVitals.Json

/-- A token; `text none` is quoted text that spells no string. -/
inductive Token where
  | openArray
  | closeArray
  | openObject
  | closeObject
  | comma
  | colon
  | text (content : Option String)
  | word (letters : List Char)
  deriving DecidableEq

/-- Quoted text that is being read: its characters, last first, whether it spells a string so far,
and the first half of a surrogate pair that still lacks its second half. -/
structure OpenText where
  reversed : List Char
  sound : Bool
  lead : Option Nat
  deriving DecidableEq

namespace OpenText

/-- Nothing read after the opening quote. -/
def start : OpenText := ⟨[], true, none⟩

/-- Give up on a first half of a pair that nothing completed. -/
def settle (text : OpenText) : OpenText :=
  if text.lead.isSome then { text with sound := false, lead := none } else text

/-- Read one character that stands for itself. -/
def push (text : OpenText) (letter : Char) : OpenText :=
  let settled := text.settle
  { settled with reversed := letter :: settled.reversed }

/-- Read a `\u` escape with this value. -/
def pushUnit (text : OpenText) (unit : Nat) : OpenText :=
  match text.lead with
  | some lead =>
    if 0xDC00 ≤ unit ∧ unit ≤ 0xDFFF then
      let scalar := 0x10000 + (lead - 0xD800) * 0x400 + (unit - 0xDC00)
      { text with reversed := Char.ofNat scalar :: text.reversed, lead := none }
    else { text with sound := false, lead := none }
  | none =>
    if 0xD800 ≤ unit ∧ unit ≤ 0xDBFF then { text with lead := some unit }
    else if 0xDC00 ≤ unit ∧ unit ≤ 0xDFFF then { text with sound := false }
    else { text with reversed := Char.ofNat unit :: text.reversed }

/-- The string that the text spells once its closing quote is read. -/
def content (text : OpenText) : Option String :=
  let settled := text.settle
  if settled.sound then some (String.ofList settled.reversed.reverse) else none

end OpenText

/-- What the scanner is in the middle of. -/
inductive Mode where
  | between
  | inWord (reversed : List Char)
  | inText (text : OpenText)
  | inEscape (text : OpenText)
  | inUnit (text : OpenText) (digits : Nat) (value : Nat)
  deriving DecidableEq

/-- The scanner: the tokens so far, last first, and what it is in the middle of. -/
structure Scanner where
  reversed : List Token
  mode : Mode
  deriving DecidableEq

namespace Scanner

/-- Nothing read. -/
def start : Scanner := ⟨[], .between⟩

/-- The four characters that separate tokens. -/
def isBlank (letter : Char) : Bool :=
  letter = ' ' || letter = '\n' || letter = '\t' || letter = '\r'

/-- The characters of bare words. -/
def isWordLetter (letter : Char) : Bool :=
  letter.isAlphanum || letter = '+' || letter = '-' || letter = '.'

/-- The bracket, comma or colon that a character is. -/
def punctuation? : Char → Option Token
  | '[' => some .openArray
  | ']' => some .closeArray
  | '{' => some .openObject
  | '}' => some .closeObject
  | ',' => some .comma
  | ':' => some .colon
  | _ => none

/-- The character that a one-letter escape stands for. -/
def shortEscape? : Char → Option Char
  | '"' => some '"'
  | '\\' => some '\\'
  | '/' => some '/'
  | 'b' => some '\x08'
  | 'f' => some '\x0c'
  | 'n' => some '\n'
  | 'r' => some '\r'
  | 't' => some '\t'
  | _ => none

/-- Read a character that starts a token or stands between two. -/
def stepBetween (tokens : List Token) (letter : Char) : Option Scanner :=
  if isBlank letter then some ⟨tokens, .between⟩
  else if letter = '"' then some ⟨tokens, .inText .start⟩
  else if isWordLetter letter then some ⟨tokens, .inWord [letter]⟩
  else (punctuation? letter).map (fun token => ⟨token :: tokens, .between⟩)

/-- Read one character. -/
def step (scanner : Scanner) (letter : Char) : Option Scanner :=
  match scanner.mode with
  | .between => stepBetween scanner.reversed letter
  | .inWord reversed =>
    if isWordLetter letter then some { scanner with mode := .inWord (letter :: reversed) }
    else stepBetween (.word reversed.reverse :: scanner.reversed) letter
  | .inText text =>
    if letter = '"' then some ⟨.text text.content :: scanner.reversed, .between⟩
    else if letter = '\\' then some { scanner with mode := .inEscape text }
    else if letter.toNat < 0x20 then none
    else some { scanner with mode := .inText (text.push letter) }
  | .inEscape text =>
    if letter = 'u' then some { scanner with mode := .inUnit text 0 0 }
    else (shortEscape? letter).map
      (fun plain => { scanner with mode := .inText (text.push plain) })
  | .inUnit text digits value =>
    (Text.hexValue? letter).map (fun digit =>
      let read := 16 * value + digit
      if digits = 3 then { scanner with mode := .inText (text.pushUnit read) }
      else { scanner with mode := .inUnit text (digits + 1) read })

/-- All tokens, if the input does not end inside a quoted text. -/
def finish (scanner : Scanner) : Option (List Token) :=
  match scanner.mode with
  | .between => some scanner.reversed.reverse
  | .inWord reversed => some (.word reversed.reverse :: scanner.reversed).reverse
  | _ => none

end Scanner

/-- The tokens of a text. -/
def tokens? (letters : List Char) : Option (List Token) := do
  let scanner ← letters.foldlM Scanner.step Scanner.start
  scanner.finish

end RepoVitals.Json

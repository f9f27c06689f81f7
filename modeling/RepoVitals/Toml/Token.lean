import RepoVitals.Config.Quoted
/-!
TOML tokens: brackets, words, quoted texts, blanks and line ends.

Owns a scanner that takes one character at a time.  A word is a run of the characters that bare
keys, numbers, dates and `true` or `false` are made of; what a word means depends on its place.
Comments are no tokens.  Line ends are a line feed alone; a carriage return in front of one has to
be taken away before.
-/

namespace RepoVitals.Toml

open Config

/-- A token.  Quoted text is `long` if it stands between three quotes on each side. -/
inductive Token where
  | openBracket
  | closeBracket
  | openBrace
  | closeBrace
  | comma
  | equals
  | lineEnd
  | blank (letters : List Char)
  | word (letters : List Char)
  | text (content : String) (long : Bool)
  deriving DecidableEq

/-- What the scanner is in the middle of; what was read of it stands last first. -/
inductive Mode where
  | between
  | inBlank (reversed : List Char)
  | inWord (reversed : List Char)
  | inComment
  /-- After one quote, or after two of them. -/
  | afterQuote (quote : Char) (second : Bool)
  | inText (quote : Char) (reversed : List Char) (escaped : Bool)
  /-- After `quotes` quotes in a row that may be part of the text. -/
  | inLongText (quote : Char) (reversed : List Char) (escaped : Bool) (quotes : Nat)
  /-- After three quotes in a row, and `extra` more that are part of the text. -/
  | closing (quote : Char) (reversed : List Char) (extra : Nat)
  deriving DecidableEq

/-- The scanner: the tokens so far, last first, and what it is in the middle of. -/
structure Scanner where
  reversed : List Token
  mode : Mode
  deriving DecidableEq

namespace Scanner

/-- The characters of words. -/
def isWordLetter (letter : Char) : Bool :=
  letter.isAlphanum || letter = '_' || letter = '-' || letter = '+' || letter = '.' || letter = ':'

/-- The token that a character is by itself. -/
def single? : Char → Option Token
  | '[' => some .openBracket
  | ']' => some .closeBracket
  | '{' => some .openBrace
  | '}' => some .closeBrace
  | ',' => some .comma
  | '=' => some .equals
  | '\n' => some .lineEnd
  | _ => none

/-- Read a character that starts a token. -/
def stepBetween (tokens : List Token) (letter : Char) : Option Scanner :=
  if letter = ' ' ∨ letter = '\t' then some ⟨tokens, .inBlank [letter]⟩
  else if letter = '#' then some ⟨tokens, .inComment⟩
  else if letter = '"' ∨ letter = '\'' then some ⟨tokens, .afterQuote letter false⟩
  else if isWordLetter letter then some ⟨tokens, .inWord [letter]⟩
  else (single? letter).map (fun token => ⟨token :: tokens, .between⟩)

/-- The content of quoted text.  Between single quotes every character stands for itself. -/
def content? (quote : Char) (long : Bool) (letters : List Char) : Option String :=
  if quote = '"' then Quoted.content? long letters
  else if letters.all (fun letter => Quoted.isPlain letter || (long && letter = '\n')) then
    some (String.ofList letters)
  else none

/-- The token of quoted text on one line. -/
def textToken? (quote : Char) (reversed : List Char) : Option Token :=
  (content? quote false reversed.reverse).map (.text · false)

/-- The token of long quoted text, read up to its three closing quotes.  A line end right at the
start is not part of it. -/
def longTextToken? (quote : Char) (reversed : List Char) : Option Token :=
  let letters := (reversed.drop 3).reverse
  let inner := if letters.head? = some '\n' then letters.drop 1 else letters
  (content? quote true inner).map (.text · true)

/-- Read a character inside quoted text on one line. -/
def stepText (tokens : List Token) (quote : Char) (reversed : List Char) (escaped : Bool)
    (letter : Char) : Option Scanner :=
  if letter = '\n' then none
  else if escaped then some ⟨tokens, .inText quote (letter :: reversed) false⟩
  else if letter = quote then
    (textToken? quote reversed).map (fun token => ⟨token :: tokens, .between⟩)
  else
    some ⟨tokens, .inText quote (letter :: reversed) (letter = '\\' && quote = '"')⟩

/-- Read a character inside long quoted text. -/
def stepLongText (tokens : List Token) (quote : Char) (reversed : List Char) (escaped : Bool)
    (quotes : Nat) (letter : Char) : Option Scanner :=
  if letter = quote ∧ ¬escaped then
    if quotes = 2 then some ⟨tokens, .closing quote (letter :: reversed) 0⟩
    else some ⟨tokens, .inLongText quote (letter :: reversed) false (quotes + 1)⟩
  else
    some ⟨tokens,
      .inLongText quote (letter :: reversed) (!escaped && letter = '\\' && quote = '"') 0⟩

/-- Read one character. -/
def step (scanner : Scanner) (letter : Char) : Option Scanner :=
  match scanner.mode with
  | .between => stepBetween scanner.reversed letter
  | .inBlank reversed =>
    if letter = ' ' ∨ letter = '\t' then some { scanner with mode := .inBlank (letter :: reversed) }
    else stepBetween (.blank reversed.reverse :: scanner.reversed) letter
  | .inWord reversed =>
    if isWordLetter letter then some { scanner with mode := .inWord (letter :: reversed) }
    else stepBetween (.word reversed.reverse :: scanner.reversed) letter
  | .inComment =>
    if letter = '\n' then some ⟨.lineEnd :: scanner.reversed, .between⟩
    else if Quoted.isPlain letter then some scanner
    else none
  | .afterQuote quote second =>
    if letter = quote then
      if second then some { scanner with mode := .inLongText quote [] false 0 }
      else some { scanner with mode := .afterQuote quote true }
    else if second then stepBetween (.text "" false :: scanner.reversed) letter
    else stepText scanner.reversed quote [] false letter
  | .inText quote reversed escaped => stepText scanner.reversed quote reversed escaped letter
  | .inLongText quote reversed escaped quotes =>
    stepLongText scanner.reversed quote reversed escaped quotes letter
  | .closing quote reversed extra =>
    if letter = quote ∧ extra < 2 then
      some { scanner with mode := .closing quote (letter :: reversed) (extra + 1) }
    else do
      stepBetween ((← longTextToken? quote reversed) :: scanner.reversed) letter

/-- All tokens, if the input does not end inside quoted text. -/
def finish (scanner : Scanner) : Option (List Token) :=
  match scanner.mode with
  | .between | .inComment => some scanner.reversed.reverse
  | .inBlank reversed => some (.blank reversed.reverse :: scanner.reversed).reverse
  | .inWord reversed => some (.word reversed.reverse :: scanner.reversed).reverse
  | .afterQuote _ true => some (.text "" false :: scanner.reversed).reverse
  | .closing quote reversed _ =>
    (longTextToken? quote reversed).map (fun token => (token :: scanner.reversed).reverse)
  | _ => none

end Scanner

/-- The tokens of a text whose line ends are line feeds. -/
def tokens? (letters : List Char) : Option (List Token) := do
  (← letters.foldlM Scanner.step ⟨[], .between⟩).finish

end RepoVitals.Toml

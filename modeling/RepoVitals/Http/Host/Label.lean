import RepoVitals.Http.Host.Composition
import RepoVitals.Http.Host.Direction
import RepoVitals.Http.Host.Joining
import RepoVitals.Http.Host.Mark
import RepoVitals.Http.Host.Punycode
import RepoVitals.Http.Host.Spelling
/-!
Labels: the parts of the name of a host between its dots.

Owns:
- the rules for labels with letters beyond ASCII: they begin with no mark, joiners stand only where
  letters can be joined, and nothing has another spelling;
- the directions of the letters of a label;
- the reading of a label, which may be encoded already.
-/

namespace RepoVitals.Http.Host

/-- The letter is an ASCII character. -/
def isAscii (letter : Char) : Bool := letter.toNat < 0x80

/-! ### Marks and joiners -/

/-- The character is a mark. -/
def isMark (letter : Char) : Bool :=
  nonspacingMarks.has letter || spacingMarks.has letter

/-- The character does not come between two letters that join. -/
def isTransparent (letter : Char) : Bool :=
  nonspacingMarks.has letter || transparentLetters.has letter

/-- The class of the marks that take the vowel away from a letter. -/
def vowelKiller : Nat := 9

/-- A joiner may stand between what is before it, the nearest character first, and what is behind
it.  A joiner that keeps letters apart may also stand between two letters that would join. -/
def allowsJoiner (separates : Bool) (before behind : List Char) : Bool :=
  match before with
  | [] => false
  | nearest :: _ =>
    markClass nearest = vowelKiller ||
      (separates &&
        match before.dropWhile isTransparent, behind.dropWhile isTransparent with
        | first :: _, second :: _ =>
          (joiningBoth.has first || joiningAfter.has first) &&
            (joiningBoth.has second || joiningBefore.has second)
        | _, _ => false)

/-- Every joiner stands where one may stand; `before` are the characters already seen, the nearest
first. -/
def hasPlacedJoiners (before : List Char) : List Char → Bool
  | [] => true
  | letter :: rest =>
    (if letter = '\u200C' then allowsJoiner true before rest
      else if letter = '\u200D' then allowsJoiner false before rest
      else true) &&
      hasPlacedJoiners (letter :: before) rest

/-- The label begins with no mark, and its joiners stand where they may. -/
def isWellFormed (letters : List Char) : Bool :=
  !(letters.head?.any isMark) && hasPlacedJoiners [] letters

/-! ### Directions -/

/-- The direction of a character. -/
inductive Direction where
  | left
  | right
  | arabicDigit
  | europeanDigit
  | mark
  | neutral
  deriving DecidableEq

/-- The direction of a character of a name. -/
def Direction.ofLetter (letter : Char) : Direction :=
  if letter.isAlpha then .left
  else if letter.isDigit then .europeanDigit
  else if isAscii letter then .neutral
  else if rightToLeft.has letter then .right
  else if arabicDigits.has letter then .arabicDigit
  else if europeanDigits.has letter then .europeanDigit
  else if nonspacingMarks.has letter then .mark
  else if undirected.has letter then .neutral
  else .left

/-- The direction makes a name one that is partly written from right to left. -/
def Direction.isRightward (direction : Direction) : Bool :=
  direction = .right || direction = .arabicDigit

/-- A label of a name that is partly written from right to left keeps to one direction. -/
def keepsDirection (letters : List Char) : Bool :=
  let directions := letters.map Direction.ofLetter
  let last := directions.reverse.dropWhile (· = .mark)
  match directions.head? with
  | none => true
  | some .left =>
    directions.all (fun direction => !direction.isRightward) &&
      (last.head? = some .left || last.head? = some .europeanDigit)
  | some .right =>
    directions.all (· ≠ .left) && last.head? ≠ some .neutral &&
      !(directions.contains .arabicDigit && directions.contains .europeanDigit)
  | some _ => false

/-! ### Labels -/

/-- A label: its letters, and how they are written with ASCII characters alone. -/
structure Label where
  letters : List Char
  text : List Char

/-- What an encoded label begins with. -/
def encodedMark : List Char := ['x', 'n', '-', '-']

/-- The label that letters in their spelling stand for. -/
def Label.ofLetters? (letters : List Char) : Option Label :=
  if encodedMark.isPrefixOf letters then
    if letters.all isAscii then do
      let decoded ← Punycode.decode? (letters.drop encodedMark.length)
      if decoded.all isAscii ∨ !decoded.all isSettled ∨ !isComposed decoded ∨
          encodedMark.isPrefixOf decoded ∨ !isWellFormed decoded then none
      else some ⟨decoded, letters⟩
    else none
  else if letters.all isAscii then some ⟨letters, letters⟩
  else if isWellFormed letters then some ⟨letters, encodedMark ++ Punycode.encode letters⟩
  else none

end RepoVitals.Http.Host

import RepoVitals.Text.Width.Hidden
import RepoVitals.Text.Width.Pictograph
import RepoVitals.Text.Width.Wide
/-!
The width of a line: how many columns of a terminal it takes.

Owns:
- the columns of a character on its own: two if it is wide, none if it is hidden, otherwise one;
- the signs that several characters make up, and what they change about the columns of their
  characters: pictures, flags, and the ligatures of some scripts;
- the width of a line, which is counted from its end, since a character's columns depend on what
  follows it.
-/

namespace RepoVitals.Text

namespace Width

/-! ### What follows a character -/

/-- The sign that begins behind a character, as far as the character may be a part of it.  A letter
is `joined` if a joiner stands in front of it. -/
inductive Sign where
  | plain
  | picture
  | skinTone
  | flagLetter
  | flagLetters
  /-- A picture with a joiner in front of it. -/
  | joined
  | joinedKeycap
  | joinedFlagLetter
  | joinedFlagPairs
  | joinedFlagOdd
  /-- The end of a tag in front of a joined picture, and then the letters or digits of the tag. -/
  | tagEnd
  | tagLetters (count : Nat)
  | tagDigits (count : Nat)
  /-- The mark after a quotation mark that is as wide as an ideograph. -/
  | wideQuote
  | kiratE
  | kiratAi
  | arabicAlef
  | hebrewLamed (joined : Bool)
  | bugineseYa (joined : Bool)
  | bugineseVowel
  | tifinagh (joined : Bool)
  | tifinaghJoiner
  | lisuTone
  | turkicI (joined : Bool)
  /-- A Khmer letter that can stand below another one. -/
  | khmerLetter
  deriving DecidableEq

namespace Sign

/-- Hidden characters may stand anywhere inside the sign. -/
def isOpen : Sign → Bool
  | hebrewLamed _ | bugineseYa _ | bugineseVowel | tifinagh _ | tifinaghJoiner | lisuTone
  | turkicI _ | khmerLetter => true
  | _ => false

/-- The sign goes on behind a character that asks for a picture or for text. -/
def isPatient (sign : Sign) : Bool :=
  sign.isOpen || sign = arabicAlef

/-- The picture is joined to what is in front of it. -/
def isJoined (sign : Sign) : Bool :=
  sign = joined || sign = joinedKeycap

/-- The sign with a joiner in front of it. -/
def join : Sign → Sign
  | hebrewLamed _ => hebrewLamed true
  | bugineseYa _ => bugineseYa true
  | tifinagh _ => tifinagh true
  | turkicI _ => turkicI true
  | sign => sign

end Sign

/-- What follows a character: a sign, and whether the character is asked to be a picture, or
text. -/
structure Following where
  sign : Sign
  asPicture : Bool
  asText : Bool
  deriving DecidableEq

namespace Following

/-- A sign follows, and nothing is asked. -/
def of (sign : Sign) : Following := ⟨sign, false, false⟩

/-- A character that asks for a picture comes in front. -/
def askPicture (following : Following) : Following :=
  if following.sign.isPatient ∨ following.sign.isJoined then { following with asPicture := true }
  else ⟨.plain, true, false⟩

/-- A character that asks for text comes in front. -/
def askText (following : Following) : Following :=
  if following.sign.isPatient then { following with asText := true } else ⟨.plain, false, true⟩

/-- What follows when no picture comes of it. -/
def withoutPicture (following : Following) : Following :=
  if !following.asPicture then following
  else if following.sign.isPatient then { following with asPicture := false }
  else of .plain

end Following

/-! ### Characters on their own -/

/-- A letter of a flag. -/
def isFlagLetter (letter : Char) : Bool :=
  0x1F1E6 ≤ letter.toNat && letter.toNat ≤ 0x1F1FF

/-- A skin tone. -/
def isSkinTone (letter : Char) : Bool :=
  0x1F3FB ≤ letter.toNat && letter.toNat ≤ 0x1F3FF

/-- A letter of a tag. -/
def isTagLetter (letter : Char) : Bool :=
  0xE0061 ≤ letter.toNat && letter.toNat ≤ 0xE007A

/-- A digit of a tag. -/
def isTagDigit (letter : Char) : Bool :=
  0xE0030 ≤ letter.toNat && letter.toNat ≤ 0xE0039

/-- A consonant of Tifinagh. -/
def isTifinagh (letter : Char) : Bool :=
  (0x2D31 ≤ letter.toNat && letter.toNat ≤ 0x2D65) || letter = '\u2D6F'

/-- The Arabic letters with the shape of an alef. -/
def alefs : Ranges :=
  [(0x622, 0x623), (0x625, 0x625), (0x627, 0x627), (0x671, 0x673), (0x675, 0x675), (0x773, 0x774),
   (0x870, 0x882)]

/-- The Arabic letters with the shape of a lam. -/
def lams : Ranges :=
  [(0x644, 0x644), (0x6B5, 0x6B8), (0x76A, 0x76A), (0x8A6, 0x8A6), (0x8C7, 0x8C7)]

/-- The Khmer letters that can stand below another one. -/
def khmerLetters : Ranges :=
  [(0x1780, 0x1782), (0x1784, 0x1787), (0x1789, 0x178C), (0x178E, 0x1793), (0x1795, 0x1798),
   (0x179B, 0x179D), (0x17A0, 0x17A0), (0x17A2, 0x17A2), (0x17A7, 0x17A7), (0x17AB, 0x17AC),
   (0x17AF, 0x17AF)]

/-- The columns of a character on its own. -/
def columns (letter : Char) : Nat :=
  if letter = '\u17D8' then 3
  else if hidden.has letter then 0
  else if wide.has letter then 2
  else 1

/-- The sign that begins with a character. -/
def signOf (letter : Char) : Sign :=
  if isFlagLetter letter then .flagLetter
  else if isSkinTone letter then .skinTone
  else if pictographs.has letter then .picture
  else if alefs.has letter then .arabicAlef
  else if khmerLetters.has letter then .khmerLetter
  else if isTifinagh letter then .tifinagh false
  else
    match letter.toNat with
    | 0x5DC => .hebrewLamed false
    | 0x1A10 => .bugineseYa false
    | 0xA4FC | 0xA4FD => .lisuTone
    | 0xFE01 => .wideQuote
    | 0x10C03 => .turkicI false
    | 0x16D67 => .kiratE
    | 0x16D68 => .kiratAi
    | _ => .plain

/-! ### Characters in front of a sign -/

/-- The columns that a character adds in front of a sign, and the sign that then begins, if it is a
part of the sign.  A character that is counted already takes its columns back. -/
def partOf? (letter : Char) : Sign → Option (Int × Sign)
  | .plain => none
  | .picture => if letter = '\u200D' then some (0, .joined) else none
  | .skinTone =>
    if bodies.has letter then some (0, .picture)
    else if letter = '\u200D' then some (0, .joined)
    else none
  | .flagLetter => if isFlagLetter letter then some (1, .flagLetters) else none
  | .flagLetters =>
    if isFlagLetter letter then some (1, .flagLetters)
    else if letter = '\u200D' then some (0, .joined)
    else none
  | .joined =>
    if letter = '\u20E3' then some (0, .joinedKeycap)
    else if isFlagLetter letter then some (1, .joinedFlagLetter)
    else if isSkinTone letter then some (0, .skinTone)
    else if letter.toNat = 0xE007F then some (0, .tagEnd)
    else if pictographs.has letter then some (0, .picture)
    else none
  | .joinedKeycap => none
  | .joinedFlagLetter => if isFlagLetter letter then some (-1, .joinedFlagPairs) else none
  | .joinedFlagPairs =>
    if isFlagLetter letter then some (3, .joinedFlagOdd)
    else if letter = '\u200D' then some (0, .joined)
    else none
  | .joinedFlagOdd =>
    if isFlagLetter letter then some (-1, .joinedFlagPairs)
    else if letter = '\u200D' then some (0, .joined)
    else none
  | .tagEnd =>
    if isTagLetter letter then some (0, .tagLetters 1)
    else if isTagDigit letter then some (0, .tagDigits 1)
    else none
  | .tagLetters count =>
    if isTagLetter letter ∧ count < 6 then some (0, .tagLetters (count + 1))
    else if isTagDigit letter ∧ count ≤ 4 then some (0, .tagDigits 1)
    else if letter.toNat = 0x1F3F4 ∧ 3 ≤ count then some (0, .picture)
    else none
  | .tagDigits count =>
    if isTagDigit letter ∧ count < 3 then some (0, .tagDigits (count + 1))
    else if letter.toNat = 0x1F3F4 ∧ count = 3 then some (0, .picture)
    else none
  | .wideQuote =>
    if ['\u2018', '\u2019', '\u201C', '\u201D'].contains letter then some (2, .plain) else none
  | .kiratE =>
    if letter.toNat = 0x16D63 ∨ letter.toNat = 0x16D69 then some (0, .plain)
    else if letter.toNat = 0x16D67 then some (0, .kiratAi)
    else if letter.toNat = 0x16D68 then some (1, .kiratE)
    else none
  | .kiratAi => if letter.toNat = 0x16D63 then some (0, .plain) else none
  | .arabicAlef =>
    if lams.has letter then some (0, .plain)
    else if hidden.has letter ∧ !hiddenApart.has letter then some (0, .arabicAlef)
    else none
  | .hebrewLamed joined => if joined ∧ letter = '\u05D0' then some (0, .plain) else none
  | .bugineseYa joined => if joined ∧ letter = '\u1A17' then some (0, .bugineseVowel) else none
  | .bugineseVowel => if letter = '\u1A15' then some (0, .plain) else none
  | .tifinagh joined =>
    if letter = '\u2D7F' then some (1, .tifinaghJoiner)
    else if joined ∧ isTifinagh letter then some (0, .plain)
    else none
  | .tifinaghJoiner => if isTifinagh letter then some (-1, .plain) else none
  | .lisuTone =>
    if 0xA4F8 ≤ letter.toNat ∧ letter.toNat ≤ 0xA4FB then some (0, .plain) else none
  | .turkicI joined => if joined ∧ letter.toNat = 0x10C32 then some (0, .plain) else none
  | .khmerLetter => if letter = '\u17D2' then some (-1, .plain) else none

/-- The columns that a character adds in front of a sign, and the sign that then begins. -/
def beforeSign (letter : Char) (sign : Sign) : Int × Sign :=
  if sign.isOpen ∧ letter = '\u200D' then (0, sign.join)
  else if sign.isOpen ∧ hiddenInside.has letter then (0, sign)
  else (partOf? letter sign).getD (columns letter, signOf letter)

/-- The columns that a character adds, and what then follows the character in front of it. -/
def before (letter : Char) (following : Following) : Int × Following :=
  if following.asPicture ∧ selectable.has letter then
    (if following.sign.isJoined then 0 else 2, .of .picture)
  else
    let rest := following.withoutPicture
    if letter.toNat ≤ 0xA0 then (1, .of .plain)
    else if letter = '\uFE0F' then (0, rest.askPicture)
    else if letter = '\uFE0E' then (0, rest.askText)
    else if rest.asText ∧ restorable.has letter then (1, .of .plain)
    else
      let (added, sign) := beforeSign letter rest.sign
      (added, .of sign)

end Width

/-- The number of columns that a line takes. -/
def lineWidth (line : List Char) : Nat :=
  (line.foldr
    (fun letter counted =>
      let (added, following) := Width.before letter counted.2
      (counted.1 + added, following))
    ((0 : Int), Width.Following.of .plain)).1.toNat

/-- An ASCII character with nothing behind it that asks for a picture takes one column. -/
theorem Width.before_of_ascii (letter : Char) (isAscii : letter.toNat < 0x80) :
    Width.before letter (.of .plain) = (1, .of .plain) := by
  have isLow : letter.toNat ≤ 0xA0 := by omega
  simp [Width.before, Width.Following.of, isLow]

/-- A line of ASCII characters takes as many columns as it has characters. -/
theorem lineWidth_of_ascii (line : List Char) (isAscii : ∀ letter ∈ line, letter.toNat < 0x80) :
    lineWidth line = line.length := by
  have counted : line.foldr
      (fun letter (counted : Int × Width.Following) =>
        let (added, following) := Width.before letter counted.2
        (counted.1 + added, following))
      ((0 : Int), Width.Following.of .plain) = ((line.length : Int), .of .plain) := by
    induction line with
    | nil => rfl
    | cons letter rest hypothesis =>
      rw [List.foldr_cons, hypothesis fun other member => isAscii other (by simp [member])]
      simp [Width.before_of_ascii letter (isAscii letter (by simp))]
  unfold lineWidth
  rw [counted]
  simp

end RepoVitals.Text

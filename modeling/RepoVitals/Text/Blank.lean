/-!
Blank characters: the characters with the Unicode property White_Space.

Owns the table of those characters and the trimming of a text at both ends.
-/

namespace RepoVitals.Text

/-- The code points with the property White_Space. -/
def blankCodePoints : List Nat :=
  [0x0009, 0x000A, 0x000B, 0x000C, 0x000D, 0x0020, 0x0085, 0x00A0, 0x1680,
    0x2000, 0x2001, 0x2002, 0x2003, 0x2004, 0x2005, 0x2006, 0x2007, 0x2008, 0x2009, 0x200A,
    0x2028, 0x2029, 0x202F, 0x205F, 0x3000]

/-- The character has the property White_Space. -/
def isBlank (letter : Char) : Bool :=
  blankCodePoints.contains letter.toNat

/-- Every blank of the standard library is blank here. -/
theorem isBlank_of_isWhitespace (letter : Char) (blank : letter.isWhitespace = true) :
    isBlank letter = true := by
  simp only [Char.isWhitespace, Bool.or_eq_true, decide_eq_true_eq] at blank
  rcases blank with ((same | same) | same) | same <;> subst same <;> decide

/-- The text without the blanks at its two ends. -/
def trimBlanks (letters : List Char) : List Char :=
  ((letters.dropWhile isBlank).reverse.dropWhile isBlank).reverse

end RepoVitals.Text

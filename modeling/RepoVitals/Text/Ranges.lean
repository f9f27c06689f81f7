/-!
Sets of characters, given by ranges of code points.
-/

namespace RepoVitals.Text

/-- A set of characters: the first and the last code point of each of its ranges. -/
abbrev Ranges := List (Nat × Nat)

namespace Ranges

/-- The character lies in one of the ranges. -/
def has (ranges : Ranges) (letter : Char) : Bool :=
  ranges.any (fun range => range.1 ≤ letter.toNat && letter.toNat ≤ range.2)

end Ranges

end RepoVitals.Text

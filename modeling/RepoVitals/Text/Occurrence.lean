/-!
Occurrence of one text inside another.
-/

namespace RepoVitals.Text

/-- The letters occur one after the other somewhere in the text. -/
def occursIn (letters : List Char) : List Char → Bool
  | [] => letters.isEmpty
  | first :: rest => letters.isPrefixOf (first :: rest) || occursIn letters rest

/-- The text `part` occurs somewhere in `whole`. -/
def isPartOf (part whole : String) : Bool :=
  occursIn part.toList whole.toList

end RepoVitals.Text

/-!
Base64: bytes as text, three of them in four characters.

Owns the alphabet and the text of a list of bytes, filled up with equals signs at the end.
-/

namespace RepoVitals.Text

/-- The character for a value below 64. -/
def base64Digit (value : Nat) : Char :=
  if value < 26 then Char.ofNat ('A'.toNat + value)
  else if value < 52 then Char.ofNat ('a'.toNat + (value - 26))
  else if value < 62 then Char.ofNat ('0'.toNat + (value - 52))
  else if value = 62 then '+'
  else '/'

/-- The characters of three bytes, the first in the highest place. -/
def base64Group (first second third : UInt8) : List Char :=
  let bits := (first.toNat * 256 + second.toNat) * 256 + third.toNat
  [18, 12, 6, 0].map (fun place => base64Digit (bits / Nat.pow 2 place % 64))

/-- The characters of a list of bytes. -/
def base64Letters : List UInt8 → List Char
  | first :: second :: third :: rest => base64Group first second third ++ base64Letters rest
  | [first, second] => (base64Group first second 0).take 3 ++ ['=']
  | [first] => (base64Group first 0 0).take 2 ++ ['=', '=']
  | [] => []

/-- The UTF-8 bytes of a text in Base64. -/
def base64 (content : String) : String :=
  String.ofList (base64Letters content.toUTF8.toList)

end RepoVitals.Text

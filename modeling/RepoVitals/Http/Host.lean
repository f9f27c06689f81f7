import RepoVitals.Http.Host.Label
import RepoVitals.Http.Host.Numeric
/-!
Hosts, as they are written in addresses.

Owns:
- the three kinds of host: a name, four bytes, and eight pairs of bytes in brackets;
- names with letters of all scripts and with percent signs in front of encoded bytes, and their
  writing with ASCII characters alone;
- the reading of a host, and its text.
-/

namespace RepoVitals.Http

/-- A host. -/
inductive Host where
  | name (text : String)
  | fourBytes (value : Nat)
  | eightPairs (pairs : List Nat)
  deriving DecidableEq

namespace Host

/-- Replace percent signs and the two hexadecimal digits behind them by the byte that they
encode. -/
def decodeBytes : List UInt8 → List UInt8
  | 0x25 :: high :: low :: rest =>
    match Text.hexValue? (Char.ofNat high.toNat), Text.hexValue? (Char.ofNat low.toNat) with
    | some first, some second => UInt8.ofNat (16 * first + second) :: decodeBytes rest
    | _, _ => 0x25 :: decodeBytes (high :: low :: rest)
  | byte :: rest => byte :: decodeBytes rest
  | [] => []

/-- The letters that a host stands for. -/
def decoded? (letters : List Char) : Option (List Char) :=
  (String.fromUTF8? ⟨(decodeBytes (String.ofList letters).toUTF8.toList).toArray⟩).map String.toList

/-- The character does not occur in the name of a host. -/
def isForbidden (letter : Char) : Bool :=
  letter.toNat ≤ 0x20 || letter.toNat = 0x7F ||
    ['"', '#', '%', '/', ':', '<', '>', '?', '@', '[', '\\', ']', '^', '\x60', '\x7b', '|',
      '\x7d'].contains letter

/-- The name that letters stand for, with ASCII characters alone.  If any label is written from
right to left, all of them keep to one direction. -/
def nameOf? (letters : List Char) : Option (List Char) := do
  let labels ← (splitAt '.' (← spell? letters)).mapM Label.ofLetters?
  let isMixed := labels.any (fun label =>
    label.letters.any (fun letter => (Direction.ofLetter letter).isRightward))
  let text := ['.'].intercalate (labels.map Label.text)
  if (isMixed ∧ !labels.all (fun label => keepsDirection label.letters)) ∨ text = [] ∨
      text.any isForbidden then none
  else some text

/-- The host that letters stand for. -/
def ofLetters? (letters : List Char) : Option Host :=
  match letters with
  | '[' :: rest =>
    if rest.getLast? = some ']' then (eightPairs? rest.dropLast).map eightPairs else none
  | _ => do
    let text ← nameOf? (← decoded? letters)
    if endsInNumber text then (fourBytes? text).map fourBytes
    else some (name (String.ofList text))

/-- The host as a text. -/
def text : Host → String
  | name text => text
  | fourBytes value => String.ofList (fourBytesText value)
  | eightPairs pairs => String.ofList (eightPairsText pairs)

/-- The host as it stands in an address, where colons are kept in brackets. -/
def inAddress : Host → String
  | eightPairs pairs => "[" ++ (eightPairs pairs).text ++ "]"
  | host => host.text

end Host

end RepoVitals.Http

import RepoVitals.Http.Host
import RepoVitals.Http.Message
/-!
Addresses: where a request goes.

Owns the reading of a URL as a client needs it: whether the way there is encrypted, the host, the
number of the service there, and the target that it is asked for.

Reading is lenient: blanks at the ends, tabs and line breaks do not count, and slashes may lean
either way and stand in any number before the host.  Only `http` and `https` lead anywhere.
-/

namespace RepoVitals.Http

/-- Where a request goes. -/
structure Address where
  encrypted : Bool
  host : Host
  service : Nat
  target : String
  deriving DecidableEq

namespace Address

/-- The letters of a URL that count. -/
def cleaned (url : String) : List Char :=
  let isOuter := fun (letter : Char) => decide (letter.toNat ≤ 0x20)
  (((url.toList.dropWhile isOuter).reverse.dropWhile isOuter).reverse).filter
    (fun letter => letter ≠ '\t' && letter ≠ '\n' && letter ≠ '\r')

/-- The letter is a slash, leaning either way. -/
def isSlash (letter : Char) : Bool :=
  letter = '/' || letter = '\\'

/-- The letter ends the part with the host. -/
def endsAuthority (letter : Char) : Bool :=
  isSlash letter || letter = '?' || letter = '#'

/-- The letters after the last at sign. -/
def withoutUser (letters : List Char) : List Char :=
  (letters.reverse.takeWhile (· ≠ '@')).reverse

/-- The letters of the host at the front: up to the first colon that does not stand in brackets. -/
def hostLetters (bracketed : Bool) : List Char → List Char
  | [] => []
  | letter :: rest =>
    if letter = ':' ∧ !bracketed then []
    else letter :: hostLetters (letter = '[' || (bracketed && letter ≠ ']')) rest

/-- The service that digits name; without digits it is the usual one. -/
def service? (usual : Nat) (digits : List Char) : Option Nat :=
  if digits = [] then some usual
  else if digits.all Char.isDigit then
    let value := digits.foldl (fun value digit => 10 * value + (digit.toNat - '0'.toNat)) 0
    if value < UInt16.size then some value else none
  else none

/-- The byte is written as it is in a target. -/
def isPlainByte (byte : UInt8) : Bool :=
  0x20 < byte.toNat && byte.toNat < 0x7F &&
    !(['"', '<', '>', '`', '{', '}'].contains (Char.ofNat byte.toNat))

/-- A byte as it is written in a target. -/
def targetByte (byte : UInt8) : List Char :=
  if isPlainByte byte then [Char.ofNat byte.toNat]
  else
    ['%', (Text.hexDigit (byte.toNat / 16)).toUpper, (Text.hexDigit (byte.toNat % 16)).toUpper]

/-- Letters as they are written in a target. -/
def encoded (letters : List Char) : List Char :=
  (String.ofList letters).toUTF8.toList.flatMap targetByte

/-- The target in what follows the host: a path and perhaps a query. -/
def targetOf (letters : List Char) : String :=
  let asked := letters.takeWhile (· ≠ '#')
  let path := (asked.takeWhile (· ≠ '?')).map (fun letter => if isSlash letter then '/' else letter)
  let rooted := if path = [] then ['/'] else path
  String.ofList (encoded (rooted ++ asked.dropWhile (· ≠ '?')))

/-- The service that is asked for unless another one is named. -/
def usualService (encrypted : Bool) : Nat := if encrypted then 443 else 80

/-- The host as it is named in a request, with its service unless that is the usual one. -/
def hostText (address : Address) : String :=
  let name := address.host.inAddress
  if address.service = usualService address.encrypted then name
  else name ++ ":" ++ Text.decimal address.service

/-- The number of characters of an address as it is written out, with the given letters behind its
target. -/
def writtenSize (address : Address) (behind : List Char) : Nat :=
  (if address.encrypted then 8 else 7) + address.hostText.length + address.target.length +
    (encoded behind).length

/-- No written address is longer. -/
def greatestSize : Nat := UInt16.size - 2

/-- The address that a URL names. -/
def ofUrl? (url : String) : Option Address := do
  let letters := cleaned url
  let scheme := (letters.takeWhile (· ≠ ':')).map Char.toLower
  let encrypted := scheme = ['h', 't', 't', 'p', 's']
  if !encrypted ∧ scheme ≠ ['h', 't', 't', 'p'] then none
  else
    match letters.dropWhile (· ≠ ':') with
    | [] => none
    | _ :: rest =>
      let afterSlashes := rest.dropWhile isSlash
      let authority := afterSlashes.takeWhile (fun letter => !endsAuthority letter)
      let place := withoutUser authority
      let host := hostLetters false place
      let asked := afterSlashes.dropWhile (fun letter => !endsAuthority letter)
      let address : Address := {
        encrypted := encrypted
        host := ← Host.ofLetters? host
        service := ← service? (usualService encrypted) (place.drop (host.length + 1))
        target := targetOf asked }
      if address.writtenSize (asked.dropWhile (· ≠ '#')) ≤ greatestSize then some address else none

end Address

/-- The request can be sent: its URL leads somewhere and its headers are sound. -/
def Request.isSendable (request : Request) : Bool :=
  (Address.ofUrl? request.url).isSome && request.hasPlainHeaders

end RepoVitals.Http

import RepoVitals.Http.Address
import RepoVitals.Http.Gzip
/-!
HTTP messages as bytes on a connection that carries one request and its answer.

Owns:
- the bytes of a request;
- the reading of an answer from all bytes that came back: its status, and its body by length, in
  chunks, or up to the end.
-/

namespace RepoVitals.Http.Wire

/-! ### Requests -/

/-- The bytes of a body as they travel. -/
def bodyBytes (body : Body) : List UInt8 :=
  let plain := body.text.toUTF8.toList
  if body.compressed then Gzip.file plain else plain

/-- The lines before the body. -/
def headLines (address : Address) (request : Request) : List String :=
  [request.method.name ++ " " ++ address.target ++ " HTTP/1.1", "host: " ++ address.hostText,
    "accept: */*", "connection: close"] ++
    request.headers.map (fun header => header.1 ++ ": " ++ header.2) ++
    request.body.toList.map
      (fun body => "content-length: " ++ Text.decimal (bodyBytes body).length)

/-- The bytes of a request to an address. -/
def requestBytes (address : Address) (request : Request) : List UInt8 :=
  let head := String.join ((headLines address request).map (· ++ "\r\n")) ++ "\r\n"
  head.toUTF8.toList ++ (request.body.map bodyBytes).getD []

/-! ### Answers -/

/-- The head of an answer and what follows its empty line; `reversed` is the head read so far. -/
def splitHead? (reversed : List UInt8) : List UInt8 → Option (List UInt8 × List UInt8)
  | 13 :: 10 :: 13 :: 10 :: rest => some (reversed.reverse, rest)
  | byte :: rest => splitHead? (byte :: reversed) rest
  | [] => none

/-- The text of bytes, if they are UTF-8. -/
def textOf? (bytes : List UInt8) : Option String :=
  String.fromUTF8? ⟨bytes.toArray⟩

/-- The status in the first line of a head. -/
def status? (line : String) : Option Nat :=
  match line.splitOn " " with
  | _ :: code :: _ => code.toNat?
  | _ => none

/-- The value of a header, in lower case. -/
def header? (lines : List String) (name : String) : Option String :=
  lines.findSome? (fun line =>
    let key := line.toList.takeWhile (· ≠ ':')
    let value := (line.toList.dropWhile (· ≠ ':')).drop 1
    if (String.ofList key).toLower = name then
      some (String.ofList (value.filter (· ≠ ' '))).toLower
    else none)

/-- The size of the chunk that these bytes start with, as its line says. -/
def chunkSize (bytes : List UInt8) : Nat :=
  (bytes.map (fun byte => Text.hexValue? (Char.ofNat byte.toNat))).takeWhile Option.isSome
    |>.foldl (fun value digit => 16 * value + digit.getD 0) 0

/-- What follows the first line. -/
def afterLine (bytes : List UInt8) : List UInt8 :=
  (bytes.dropWhile (· ≠ 10)).drop 1

theorem length_afterLine_le (bytes : List UInt8) : (afterLine bytes).length ≤ bytes.length := by
  rw [afterLine, List.length_drop]
  exact Nat.le_trans (Nat.sub_le _ _) (List.dropWhile_sublist _).length_le

/-- The bytes of a body in chunks, up to the empty chunk.  The bytes of a chunk that is cut off are
lost. -/
def joinChunks (bytes : List UInt8) : List UInt8 :=
  if chunkSize bytes = 0 then []
  else if (afterLine bytes).length < chunkSize bytes then []
  else
    (afterLine bytes).take (chunkSize bytes) ++
      joinChunks ((afterLine bytes).drop (chunkSize bytes + 2))
termination_by bytes.length
decreasing_by
  have shorter := length_afterLine_le bytes
  rw [List.length_drop]
  omega

/-- The body of an answer whose head has these lines. -/
def bodyOf (lines : List String) (bytes : List UInt8) : List UInt8 :=
  if header? lines "transfer-encoding" = some "chunked" then joinChunks bytes
  else
    match (header? lines "content-length").bind String.toNat? with
    | some length => bytes.take length
    | none => bytes

/-- The answer in all bytes that came back after so many nanoseconds. -/
def answer? (bytes : List UInt8) (duration : Nat) : Option Answer := do
  let (head, rest) ← splitHead? [] bytes
  match (← textOf? head).splitOn "\r\n" with
  | first :: lines =>
    some ⟨← status? first, (textOf? (bodyOf lines rest)).getD "", duration⟩
  | [] => none

end RepoVitals.Http.Wire

import RepoVitals.Text.Numeral
/-!
HTTP messages, as far as a client is concerned with them.

Owns requests with their headers, and answers.
-/

namespace RepoVitals.Http

/-- A method. -/
inductive Method where
  | head
  | post
  | put
  deriving DecidableEq

/-- The name of a method. -/
def Method.name : Method → String
  | .head => "HEAD"
  | .post => "POST"
  | .put => "PUT"

/-- What a body consists of: one JSON text, or one on each line. -/
inductive MediaType where
  | json
  | jsonLines
  deriving DecidableEq

/-- The name of a media type. -/
def MediaType.name : MediaType → String
  | .json => "application/json"
  | .jsonLines => "application/x-ndjson"

/-- A body: its text, and whether it is compressed on its way. -/
structure Body where
  mediaType : MediaType
  text : String
  compressed : Bool
  deriving DecidableEq

/-- A request. -/
structure Request where
  method : Method
  url : String
  authorization : Option String
  body : Option Body
  deriving DecidableEq

/-- An answer, with the nanoseconds that it took to come. -/
structure Answer where
  status : Nat
  text : String
  duration : Nat
  deriving DecidableEq

namespace Request

/-- The headers of a request by which it says who asks and what its body is. -/
def headers (request : Request) : List (String × String) :=
  (request.authorization.map (fun value => ("authorization", value))).toList ++
    match request.body with
    | none => []
    | some body =>
      ("content-type", body.mediaType.name) ::
        if body.compressed then [("content-encoding", "gzip")] else []

/-- Headers hold no control characters but the tab. -/
def hasPlainHeaders (request : Request) : Bool :=
  request.headers.all (fun header =>
    header.2.toList.all (fun letter =>
      letter = '\t' || (0x20 ≤ letter.toNat && letter.toNat ≠ 0x7F)))

end Request

end RepoVitals.Http

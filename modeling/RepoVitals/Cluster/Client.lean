import RepoVitals.Assembly.Inquiry
import RepoVitals.Cluster.BulkAnswer
import RepoVitals.Cluster.Payload
import RepoVitals.Config.Configuration
import RepoVitals.Http.Address
import RepoVitals.Sink.Basic
import RepoVitals.Text.Base64
import RepoVitals.Text.Occurrence
/-!
The client of a cluster: searches and writes as HTTP requests.

Owns:
- the requests of a search, of the question whether an index exists, of a creation and of a bulk
  call;
- what the answers to them mean;
- the executor and the sink that reach the cluster through a network.

A network says what answer a request gets, if it gets any.  It may keep a state, and a request that
cannot be sent never reaches it.  Nothing is tried twice.
-/

namespace RepoVitals.Cluster

open Assembly (Executor)
open Bulk (Verdict)
open Config (Store)
open Http (Answer Body Method)
open Index (Settings)
open Json (Value)
open Search (Response)
open Sink (Creation Flight Landing)

/-! ### Requests -/

/-- The credentials of a store; a key beats a user with a password. -/
def authorization (store : Store) : Option String :=
  match store.apiKey, store.username with
  | some key, _ => some ("ApiKey " ++ key)
  | none, some user => some ("Basic " ++ Text.base64 (user ++ ":" ++ store.password.getD ""))
  | none, none => none

/-- The URL of a path below the address of a store, with one slash between them. -/
def urlOf (store : Store) (path : String) : String :=
  String.ofList ((store.url.toList.reverse.dropWhile (· = '/')).reverse) ++ "/" ++ path

/-- A request to a store. -/
def requestOf (store : Store) (method : Method) (path : String) (body : Option Body) :
    Http.Request :=
  ⟨method, urlOf store path, authorization store, body⟩

/-- A body of one JSON text. -/
def jsonBody (value : Value) : Body := ⟨.json, value.toText, false⟩

/-- The request of a search. -/
def requestOfSearch (store : Store) (search : Search.Request) : Http.Request :=
  requestOf store .post (search.index ++ "/_search") (some (jsonBody search.body))

/-- The request that asks for an index. -/
def requestOfExistence (store : Store) (index : String) : Http.Request :=
  requestOf store .head index none

/-- The request that creates an index. -/
def requestOfCreation (store : Store) (index : String) (settings : Settings) : Http.Request :=
  requestOf store .put index (some (jsonBody settings.body))

/-- The request of a bulk call. -/
def requestOfBulk (store : Store) (index : String) (documents : List Entry) : Http.Request :=
  requestOf store .post "_bulk"
    (some ⟨.jsonLines, payload index documents, store.compressRequests⟩)

/-! ### Answers -/

/-- What an answer to a search means. -/
def meaningOfSearch (index : String) (answer : Answer) : Outcome Response :=
  if Http.succeeds answer.status then
    match Response.ofText? answer.text with
    | some response => .ok response
    | none => .error ((Failure.ofCause .unreadableBody).within (.readingSearch index))
  else .error (.ofCause (.queryStatus index answer.status answer.text))

/-- What an answer says about the existence of an index. -/
def meaningOfExistence (index : String) (answer : Answer) : Outcome Bool :=
  if Http.succeeds answer.status then .ok true
  else if answer.status = 404 then .ok false
  else .error (.ofCause (.existenceUndecided index answer.status))

/-- The name of the error that an index exists already. -/
def alreadyExistsError : String := "resource_already_exists_exception"

/-- What an answer says about the creation of an index. -/
def meaningOfCreation (index : String) (answer : Answer) : Outcome Creation :=
  if Http.succeeds answer.status then .ok .created
  else if Text.isPartOf alreadyExistsError answer.text then .ok .alreadyExists
  else .error (.ofCause (.creationRefused index answer.status answer.text))

/-- What an answer says about the documents of a bulk call. -/
def meaningOfBulk (answer : Answer) : Outcome (List Verdict) :=
  if Http.succeeds answer.status then
    match verdictsOfText? answer.text with
    | some verdicts => .ok verdicts
    | none => .error ((Failure.ofCause .unreadableBody).within .readingBulk)
  else .error (.ofCause (.bulkRefused answer.status answer.text))

/-! ### Through the network -/

/-- What an exchange brought, or the failure of not getting an answer. -/
def received (request : Http.Request) (circumstance : Circumstance) (answer : Option Answer) :
    Outcome Answer :=
  match answer with
  | some found => .ok found
  | none =>
    let cause : Cause := if request.isSendable then .unanswered else .unsendable
    .error ((Failure.ofCause cause).within circumstance)

/-- The answer to each search, given the number of searches before it. -/
abbrev SearchNetwork := Nat → Http.Request → Option Answer

/-- The answer to each request of a sink, from a state to the next one. -/
abbrev CallNetwork (σ : Type) := σ → Http.Request → Option Answer × σ

/-- What became of a search whose request got this answer, if any. -/
def searchOutcomeOf (store : Store) (search : Search.Request) (answer : Option Answer) :
    Outcome Response := do
  meaningOfSearch search.index
    (← received (requestOfSearch store search) (.sendingSearch search.index) answer)

/-- The searches of a cluster. -/
def executor (store : Store) (network : SearchNetwork) : Executor :=
  fun history search =>
    let request := requestOfSearch store search
    searchOutcomeOf store search
      (if request.isSendable then network history.length request else none)

/-- Send a request of a sink. -/
def exchange {σ : Type} (network : CallNetwork σ) (state : σ) (request : Http.Request)
    (circumstance : Circumstance) : Outcome Answer × σ :=
  let (answer, after) := if request.isSendable then network state request else (none, state)
  (received request circumstance answer, after)

/-- The nanoseconds that an exchange took. -/
def durationOf : Outcome Answer → Nat
  | .ok answer => answer.duration
  | .error _ => 0

/-- The indexes of a cluster as a sink.  The outcome of a bulk call is settled when it starts. -/
def sink {σ : Type} (store : Store) (network : CallNetwork σ) : Sink σ where
  indexExists state index :=
    let (answer, after) := exchange network state (requestOfExistence store index) .sendingExistence
    (answer.bind (meaningOfExistence index), after)
  createIndex state index settings :=
    let (answer, after) := exchange network state (requestOfCreation store index settings)
      (.sendingCreation index)
    (answer.bind (meaningOfCreation index), after)
  takeOff state index documents :=
    let (answer, after) := exchange network state (requestOfBulk store index documents) .sendingBulk
    (⟨durationOf answer, some (.answered (answer.bind meaningOfBulk))⟩, after)
  land state _ _ flight := (flight.landing.getD .panicked, state)

end RepoVitals.Cluster

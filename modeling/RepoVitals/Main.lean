import RepoVitals.Cluster.Transcript
import RepoVitals.CommandLine.Session
import RepoVitals.Http.Wire
import Std.Async.DNS
import Std.Async.TCP
import Std.Async.Timer
/-!
The command.

Owns the way to the outside: connections to a cluster, the file system, the environment and the
clock.  What is said on a connection, and what a session makes of it all, is decided elsewhere.

Encrypted addresses cannot be reached.  A request to one goes unanswered.
-/

namespace RepoVitals

open Calendar (Date Moment)
open CommandLine (Found Surroundings)
open Http (Address Answer)
open Std.Async

namespace Connection

/-- Work that is given up after so many seconds. -/
def within {α : Type} [Inhabited α] (seconds : Nat) (work : Async α) : Async α := do
  let sleeper ← Sleep.mk (.ofNat (1000 * seconds))
  let tooLate : Async α := do
    sleeper.wait
    throw (IO.userError "too late")
  try
    Async.race work tooLate
  finally
    sleeper.stop

/-- The place of a service at a host. -/
def place (service : Nat) : Std.Net.IPAddr → Std.Net.SocketAddress
  | .v4 host => .v4 ⟨host, service.toUInt16⟩
  | .v6 host => .v6 ⟨host, service.toUInt16⟩

/-- A connection to the first of these places that takes one. -/
def connect : List Std.Net.SocketAddress → Async TCP.Socket.Client
  | [] => throw (IO.userError "no place to connect to")
  | first :: rest => do
    try
      let client ← TCP.Socket.Client.mk
      client.connect first
      return client
    catch _ => connect rest

/-- All bytes that come until the connection is closed. -/
partial def receive (client : TCP.Socket.Client) (held : ByteArray) : Async ByteArray := do
  match ← client.recv? 65536 with
  | some more => receive client (held ++ more)
  | none => return held

/-- Send a request on a connection of its own and wait for the answer. -/
def converse (store : Config.Store) (address : Address) (request : Http.Request) :
    Async ByteArray :=
  within store.requestTimeout do
    let hosts ← DNS.getAddrInfo address.host.text ""
    let places := hosts.toList.map (place address.service)
    match ← within store.connectTimeout (some <$> connect places) with
    | none => return .empty
    | some client =>
      client.send ⟨(Http.Wire.requestBytes address request).toArray⟩
      receive client .empty

/-- Deliver a request; whatever goes wrong, there is no answer. -/
def deliver (store : Config.Store) (request : Http.Request) : IO (Option Answer) := do
  match Address.ofUrl? request.url with
  | none => return none
  | some address =>
    if address.encrypted then return none
    else
      try
        let begun ← IO.monoNanosNow
        let bytes ← (converse store address request).block
        return Http.Wire.answer? bytes.toList ((← IO.monoNanosNow) - begun)
      catch _ => return none

/-- Write a batch, sending one request after the other. -/
partial def write (configuration : Configuration) (batch : Batch) (index : String)
    (answers : List (Option Answer)) : IO (Outcome Bulk.WriteReport) := do
  match Cluster.Transcript.write configuration batch index answers with
  | .ok outcome => return outcome
  | .error request =>
    write configuration batch index (answers ++ [← deliver configuration.store request])

/-- The services of a cluster. -/
def services (configuration : Configuration) : Services IO where
  inquire inquiry := inquiry.perform fun search => do
    let store := configuration.store
    let request := Cluster.requestOfSearch store search
    let answer ← if request.isSendable then deliver store request else pure none
    return Cluster.searchOutcomeOf store search answer
  write batch index := write configuration batch index []

end Connection

namespace CommandLine

/-- The code of the error that a directory cannot be read as a file. -/
def directoryCode : UInt32 := 21

/-- Look at what there is under a path. -/
def lookUp (path : String) : IO Found := do
  try
    match String.fromUTF8? (← IO.FS.readBinFile path) with
    | some content => return .file content
    | none => return .other
  catch
    | .noFileOrDirectory .. => return .nothing
    | .inappropriateType _ code _ =>
      return if code = directoryCode then .other else .uncertain
    | .invalidArgument .. => return .uncertain
    | _ => return .other

/-- What a session with these arguments finds around it. -/
def surroundings (arguments : List String) : IO Surroundings := do
  let paths := match Command.ofArguments arguments with
    | .ok (.run wishes) => [wishes.config.getD defaultPath]
    | _ => []
  let found ← paths.mapM lookUp
  let instant := (← Std.Time.Timestamp.now).toNanosecondsSinceUnixEpoch.toInt
  let now : Moment := ⟨instant / 1000000000, (instant % 1000000000).toNat⟩
  let (year, month, day) := now.civil
  match Date.ofParts? year month day with
  | none => throw (IO.userError "today is out of the supported years")
  | some today =>
    return {
      look := fun _ => found.headD .nothing
      environment := (← Std.Internal.UV.System.osEnviron).toList
      now := now
      today := today }

/-- Run the session of these arguments and show how it ended. -/
def perform (arguments : List String) : IO UInt32 := do
  let surroundings ← surroundings arguments
  let ending ← session surroundings Connection.services arguments
  ending.printed.forM IO.println
  let filter := LogFilter.ofEnvironment surroundings.environment
  (ending.log filter).forM fun line =>
    IO.println (surroundings.now.text ++ " ERROR " ++ LogFilter.sessionPart ++ ": " ++ line)
  (ending.complaints filter).forM IO.eprintln
  return ending.exitCode

end CommandLine

end RepoVitals

def main (arguments : List String) : IO UInt32 :=
  RepoVitals.CommandLine.perform arguments

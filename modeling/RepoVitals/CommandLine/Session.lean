import RepoVitals.CommandLine.Arguments
import RepoVitals.CommandLine.LogFilter
import RepoVitals.Config.Load
import RepoVitals.Summary
import RepoVitals.Text.Occurrence
/-!
A session of the command line, from its arguments to what it shows.

Owns:
- the configuration file: the one that is asked for, which must be there, or else `pmx.toml` if that
  is there;
- the session itself, given all files and variables and the services of a cluster;
- its ending: the exit code, the lines on the output, the log of a failed run with a hint if the
  cluster was out of reach, and the complaint about a session that could not begin.
-/

namespace RepoVitals.CommandLine

open Calendar (Date Moment)
open Config (Environment File)

/-- What is found under a path. -/
inductive Found where
  | nothing
  | file (content : String)
  /-- Something that is there, but no text file. -/
  | other
  /-- Nobody can say, since the way there leads through something that is no directory. -/
  | uncertain

/-- All that a session finds around it. -/
structure Surroundings where
  look : String → Found
  environment : Environment
  now : Moment
  today : Date

/-- How a session ends. -/
inductive Ending where
  | misused (misuse : Misuse)
  | version
  | help
  /-- The configuration file that was asked for cannot be had. -/
  | noFile (cause : Cause)
  | notConfigured (failure : Config.LoadFailure)
  | failed (failure : Failure)
  | finished (reports : List FamilyReport)

/-! ### The session -/

/-- The file that is used unless another one is asked for. -/
def defaultPath : String := "pmx.toml"

/-- A file as a source of settings.  What is no file sets nothing. -/
def fileOf (path : String) : Found → File
  | .file content => ⟨path, some content⟩
  | _ => ⟨path, none⟩

/-- The configuration file, or why the one that was asked for cannot be had. -/
def configurationFile (surroundings : Surroundings) (asked : Option String) :
    Except Cause (Option File) :=
  let path := asked.getD defaultPath
  match surroundings.look path, asked with
  | .nothing, some missing => .error (.configurationMissing missing)
  | .uncertain, some asked => .error (.configurationUncertain asked)
  | .nothing, none | .uncertain, none => .ok none
  | found, _ => .ok (some (fileOf path found))

/-- Whatever has to be known before a run: the configuration and the errand, or the ending of a
session that does not come to a run. -/
def prepare (surroundings : Surroundings) (arguments : List String) :
    Except Ending (Configuration × Errand) := do
  match Command.ofArguments arguments with
  | .error misuse => .error (.misused misuse)
  | .ok .version => .error .version
  | .ok .help => .error .help
  | .ok (.run wishes) =>
    let file ← (configurationFile surroundings wishes.config).mapError Ending.noFile
    let configuration ←
      (Config.load file surroundings.environment).mapError Ending.notConfigured
    return (configuration, wishes.errand surroundings.today)

/-- The ending of a session that came to a run. -/
def Ending.ofOutcome : Outcome (List FamilyReport) → Ending
  | .error failure => .failed failure
  | .ok reports => .finished reports

/-- A whole session, with the services that a configuration asks for. -/
def session {m : Type → Type} [Monad m] (surroundings : Surroundings)
    (servicesOf : Configuration → Services m) (arguments : List String) : m Ending := do
  match prepare surroundings arguments with
  | .error ending => return ending
  | .ok (configuration, errand) =>
    let outcome ← errand.run configuration (servicesOf configuration) surroundings.now
    return .ofOutcome outcome

/-! ### What it shows -/

/-- Parts of messages that say that the cluster is out of reach. -/
def outOfReach : List String :=
  ["error sending request", "connection refused", "Connection refused", "tcp connect error",
    "dns error"]

/-- The hint for a cluster that is out of reach. -/
def hint : String :=
  "🔧 hint: looks like the cluster isn't reachable. Double-check [store].url and that OpenSearch " ++
    "is actually running. If you're using Docker, `docker ps` knows the truth. ☕"

/-- The causes that are worded elsewhere and not shown. -/
def isWordedElsewhere (text : String) : Bool :=
  text = Cause.undecodable.text || text = Cause.unanswered.text

/-- The failure has to do with a cluster that is out of reach.  Its outermost message does not
count. -/
def isOutOfReach (failure : Failure) : Bool :=
  (!failure.circumstances.isEmpty && failure.cause == .unanswered) ||
    (failure.chain.drop 1).any (fun message =>
      outOfReach.any (fun part => Text.isPartOf part message))

/-- The log of a failed run: the failure, its causes, and perhaps a hint. -/
def logOf (failure : Failure) : List String :=
  let causes := (failure.chain.drop 1).filter (fun message => !isWordedElsewhere message)
  (failure.chain.take 1).map ("💀 error: " ++ ·) ++ causes.map ("⚠️  cause: " ++ ·) ++
    if isOutOfReach failure then [hint] else []

/-- Control characters that a terminal acts on, with their names in the log. -/
def namedControls : List (Char × String) :=
  [('\x07', "\\x07"), ('\x08', "\\x08"), ('\x0c', "\\x0c"), ('\x1b', "\\x1b"), ('\x7f', "\\x7f")]

/-- A character as it is written to the log: control characters that a terminal acts on give way to
their names. -/
def loggedLetter (letter : Char) : String :=
  match namedControls.find? (fun row => row.1 = letter) with
  | some (_, name) => name
  | none =>
    if 0x80 ≤ letter.toNat ∧ letter.toNat ≤ 0x9F then
      "\\u\x7b" ++ String.ofList (Nat.toDigits 16 letter.toNat) ++ "\x7d"
    else String.ofList [letter]

/-- A message as it is written to the log. -/
def logged (message : String) : String :=
  String.join (message.toList.map loggedLetter)

/-- The line with the version. -/
def versionLine : String := "pmx 0.1.0"

/-- How the command is used. -/
def usageLines : List String :=
  ["Measure project health across repositories and write it to the cluster", "",
    "Usage: pmx [OPTIONS]", "", "Options:"] ++
    (ValueOption.all.map (fun option => "      " ++ option.usage)) ++
    ["  -h, --help", "  -V, --version"]

namespace Ending

/-- The exit code. -/
def exitCode : Ending → UInt32
  | .version | .help | .finished _ => 0
  | .noFile _ | .notConfigured _ | .failed _ => 1
  | .misused _ => 2

/-- The lines on the output. -/
def printed : Ending → List String
  | .version => [versionLine]
  | .help => usageLines
  | .finished reports => (Summary.table reports).lines
  | _ => []

/-- The messages of the log that a filter lets through. -/
def log (filter : LogFilter) : Ending → List String
  | .failed failure => if filter.showsFailures then (logOf failure).map logged else []
  | _ => []

/-- What a session that could not begin complains about. -/
def complaint? : Ending → Option String
  | .noFile cause => some ("Error: " ++ cause.text)
  | .notConfigured _ =>
    some ("Error: 💀 In pmx-cli, main, we couldn't load the config. " ++
      "Check the file and the PMX_* env vars.")
  | .misused misuse => some misuse.text
  | _ => none

/-- All complaints, in order: the remarks about the filter of the log come first. -/
def complaints (filter : LogFilter) (ending : Ending) : List String :=
  filter.remarks ++ ending.complaint?.toList

end Ending

end RepoVitals.CommandLine

import RepoVitals.Http.Status
/-!
Failures: what went wrong, and what was being done at the time.

Owns:
- the causes of a failure, as data;
- the circumstances that are added on the way out, innermost last;
- the wording of both, and the whole story of a failure in one line.
-/

namespace RepoVitals

/-- Why the answer to a search cannot be read. -/
inductive Malformation where
  | totalMissing
  | aggregationMissing (name : String)
  | valueMissing (name : String)
  | valueNotNumber (name found : String)
  | bucketsMissing (name : String)
  | keyUnusable (name : String)
  | countMissing (key name : String)
  | innerMissing (key outer inner : String)
  | described (reason : String)
  deriving DecidableEq

/-- The reason in words. -/
def Malformation.text : Malformation → String
  | .totalMissing => "hits.total is missing"
  | .aggregationMissing name => "aggregation '" ++ name ++ "' is missing"
  | .valueMissing name => "aggregation '" ++ name ++ "' has no value"
  | .valueNotNumber name found =>
    "aggregation '" ++ name ++ "' value is not a number: " ++ found
  | .bucketsMissing name => "aggregation '" ++ name ++ "' has no buckets array"
  | .keyUnusable name => "a bucket of '" ++ name ++ "' has no usable key"
  | .countMissing key name => "bucket '" ++ key ++ "' of '" ++ name ++ "' has no doc_count"
  | .innerMissing key outer inner =>
    "bucket '" ++ key ++ "' of '" ++ outer ++ "' lacks '" ++ inner ++ "'"
  | .described reason => reason

/-- What went wrong in the first place.  Times are in nanoseconds. -/
inductive Cause where
  /-- A search came back with a status other than success. -/
  | queryStatus (index : String) (status : Nat) (body : String)
  /-- An answer lacks something or has it in another shape. -/
  | malformedResponse (malformation : Malformation)
  /-- Some partitions did not finish before the deadline. -/
  | bulkWriteTimeout (index : String) (timeout : Nat) (outstanding : Nat)
  /-- No family has this name. -/
  | unknownFamily (name : String) (known : List String)
  /-- The question whether an index exists got an answer that decides nothing. -/
  | existenceUndecided (index : String) (status : Nat)
  /-- The cluster did not create an index. -/
  | creationRefused (index : String) (status : Nat) (body : String)
  /-- The cluster did not take a bulk request as a whole. -/
  | bulkRefused (status : Nat) (body : String)
  /-- A store in memory was told to fail. -/
  | storeUnreachable
  /-- The command line names a configuration file that is not there. -/
  | configurationMissing (path : String)
  /-- Nobody can say whether the configuration file on the command line is there. -/
  | configurationUncertain (path : String)
  /-- A reason given in words by somebody else. -/
  | stated (reason : String)
  /-- A value does not have the form that is needed. -/
  | undecodable
  /-- A request got no answer. -/
  | unanswered
  /-- A request could not even be formed. -/
  | unsendable
  /-- The body of an answer is not the JSON that was promised. -/
  | unreadableBody
  deriving DecidableEq

/-- The cause in words.  The causes that a parser or the network words are only marked. -/
def Cause.text : Cause → String
  | .queryStatus index status body =>
    "💀 Error connecting to the cluster: search on '" ++ index ++ "' came back " ++
      Text.decimal status ++ ": " ++ body
  | .malformedResponse malformation => "💀 Malformed search response: " ++ malformation.text
  | .bulkWriteTimeout index timeout outstanding =>
    "💀 Bulk write to '" ++ index ++ "' timed out after " ++ Text.exactDuration timeout ++
      " with " ++ Text.decimal outstanding ++ " partition(s) still in flight"
  | .unknownFamily name known =>
    "💀 Unknown metric family '" ++ name ++ "'. We know: " ++ ", ".intercalate known ++
      ". We looked. It isn't hiding."
  | .existenceUndecided index status =>
    "💀 Asked whether '" ++ index ++ "' exists and got '" ++ Http.statusText status ++
      "'. That's not a yes and it's not a no."
  | .creationRefused index status body =>
    "💀 Creating index '" ++ index ++ "' came back '" ++ Http.statusText status ++ "': " ++ body
  | .bulkRefused status body =>
    "💀 The bulk request arrived, but the cluster said '" ++ Http.statusText status ++
      "'. The body read: '" ++ body ++ "'."
  | .storeUnreachable =>
    "💀 error sending request: the in-memory network is pretending to be down"
  | .configurationMissing path =>
    "💀 Config file '" ++ path ++ "' isn't there. We looked. Twice."
  | .configurationUncertain path =>
    "💀 Couldn't check whether the config file exists. Relative paths resolve against the cwd; " ++
      "use an absolute path to be absolutely certain. Was checking here: '" ++ path ++ "'"
  | .stated reason => reason
  | .undecodable => "<json>"
  | .unanswered => "<http>"
  | .unsendable => "<http>"
  | .unreadableBody => "<http>"

/-- What was being done when something went wrong. -/
inductive Circumstance where
  | listingRepositories
  | measuring (row repository : String)
  | lookingUp (row : String)
  | checkingRelease (version repository : String)
  | assembling (family : String)
  | writing (family index : String)
  | askingForIndex (index : String)
  | creatingIndex (index : String)
  | sendingSearch (index : String)
  | readingSearch (index : String)
  | sendingExistence
  | sendingCreation (index : String)
  | sendingBulk
  | readingBulk
  deriving DecidableEq

/-- The circumstance in words. -/
def Circumstance.text : Circumstance → String
  | .listingRepositories => "💀 Couldn't list repositories from the cluster"
  | .measuring row repository =>
    "💀 Metric '" ++ row ++ "' for repository '" ++ repository ++ "' could not be computed"
  | .lookingUp row => "💀 The precomputed lookup for '" ++ row ++ "' failed"
  | .checkingRelease version repository =>
    "💀 Release " ++ version ++ " for repository '" ++ repository ++ "' could not be checked"
  | .assembling family => "💀 Assembling the " ++ family ++ " batch went sideways"
  | .writing family index =>
    "💀 Writing the " ++ family ++ " batch into '" ++ index ++ "' went sideways"
  | .askingForIndex index => "💀 Couldn't even ask whether index '" ++ index ++ "' exists"
  | .creatingIndex index => "💀 Tried to create index '" ++ index ++ "'. The cluster declined."
  | .sendingSearch index => "💀 The search on '" ++ index ++ "' never made it to the cluster"
  | .readingSearch index =>
    "💀 The search on '" ++ index ++ "' answered in something that isn't a search response"
  | .sendingExistence => "💀 Reached out to check if the index exists. Got ghosted."
  | .sendingCreation index => "💀 The create request for '" ++ index ++ "' never arrived"
  | .sendingBulk =>
    "💀 The bulk request never made it to the cluster. The network is not vibing with it."
  | .readingBulk => "💀 The bulk response wasn't the JSON we were promised"

/-- A failure: its cause and its circumstances, outermost first. -/
structure Failure where
  circumstances : List Circumstance
  cause : Cause
  deriving DecidableEq

namespace Failure

/-- A failure of which only the cause is known. -/
def ofCause (cause : Cause) : Failure := ⟨[], cause⟩

/-- The failure seen from further out. -/
def within (failure : Failure) (circumstance : Circumstance) : Failure :=
  { failure with circumstances := circumstance :: failure.circumstances }

/-- The messages from the outermost circumstance down to the cause. -/
def chain (failure : Failure) : List String :=
  failure.circumstances.map Circumstance.text ++ [failure.cause.text]

/-- The chain in one line. -/
def message (failure : Failure) : String :=
  ": ".intercalate failure.chain

end Failure

/-- The outcome of work that can fail. -/
abbrev Outcome (α : Type) := Except Failure α

/-- Say of a failed outcome what was being done. -/
def Outcome.within {α : Type} (outcome : Outcome α) (circumstance : Circumstance) : Outcome α :=
  outcome.mapError (fun failure => failure.within circumstance)

@[simp] theorem Outcome.ok_bind {α β : Type} (result : α) (next : α → Outcome β) :
    ((.ok result : Outcome α) >>= next) = next result :=
  rfl

@[simp] theorem Outcome.pure_eq {α : Type} (result : α) : (pure result : Outcome α) = .ok result :=
  rfl

/-- The outcome of reading a malformed answer. -/
def malformed {α : Type} (malformation : Malformation) : Outcome α :=
  .error (.ofCause (.malformedResponse malformation))

end RepoVitals

import RepoVitals.Batch
import RepoVitals.Bulk.Partition
import RepoVitals.Bulk.Verdict
/-!
Writing: one bulk write, with everything that workers, sink and clock can do to it.

Owns:
- the state of a write: its partitions, the clock and the deadline, and the verdict once there is
  one;
- the events, each of which is possible only in some states;
- the accounts of a call, of a partition and of the whole write.

A partition waits for room in the queue, then for a worker, and is then sent in sub-batches, one
call at a time, whatever the calls before it said.  From the deadline on no call starts, a call that
is still on its way is cut off, and whoever waits for the write is told at once: the clock cannot
pass the deadline before that.  Partitions may go on after the verdict, but they find the deadline
behind them.  Times are in nanoseconds.
-/

namespace RepoVitals.Bulk

/-! ### Accounts -/

/-- What a partition, or a whole write, amounts to: calls made, documents stored and not stored, and
calls that failed as a whole. -/
structure Tally where
  requests : Nat
  succeeded : Nat
  failed : Nat
  failedRequests : Nat
  deriving DecidableEq

namespace Tally

/-- Nothing done. -/
def zero : Tally := ⟨0, 0, 0, 0⟩

/-- Both together. -/
def add (first second : Tally) : Tally where
  requests := first.requests + second.requests
  succeeded := first.succeeded + second.succeeded
  failed := first.failed + second.failed
  failedRequests := first.failedRequests + second.failedRequests

/-- How many of `sent` documents the verdicts say are stored: the successes, but no more than were
sent.  A document without a verdict is not stored. -/
def storedOf (sent : Nat) (verdicts : List Verdict) : Nat :=
  min (verdicts.length - (failuresOf verdicts).length) sent

/-- What an answer to a call of `sent` documents adds; the call itself is counted when it starts. -/
def ofAnswer (sent : Nat) : Outcome (List Verdict) → Tally
  | .ok verdicts =>
    let stored := storedOf sent verdicts
    ⟨0, stored, sent - stored, 0⟩
  | .error _ => ⟨0, 0, sent, 1⟩

end Tally

/-! ### Partitions -/

/-- How far the work on a partition has come. -/
inductive Progress where
  /-- Not yet accepted by the queue. -/
  | waiting
  /-- Accepted, but no worker has taken it. -/
  | queued
  /-- With a worker, between two calls. -/
  | ready
  /-- With a worker, and these documents are on their way. -/
  | sending (chunk : List Entry)
  /-- All sub-batches were sent and answered. -/
  | finished
  /-- The deadline cut off this many documents. -/
  | abandoned (documents : Nat)
  /-- A call panicked. -/
  | panicked
  deriving DecidableEq

/-- A partition: its documents, those that no call has taken yet, its account and its progress. -/
structure Partition where
  documents : List Entry
  unsent : List Entry
  tally : Tally
  progress : Progress
  deriving DecidableEq

namespace Partition

/-- A partition that nobody has worked on. -/
def new (documents : List Entry) : Partition := ⟨documents, documents, .zero, .waiting⟩

/-- Not yet accepted. -/
def isWaiting (part : Partition) : Bool := part.progress = .waiting

/-- In the queue. -/
def isQueued (part : Partition) : Bool := part.progress = .queued

/-- With a worker. -/
def isRunning (part : Partition) : Bool :=
  match part.progress with
  | .ready | .sending _ => true
  | _ => false

/-- Every sub-batch was sent and answered. -/
def isFinished (part : Partition) : Bool := part.progress = .finished

/-- Cut off by the deadline. -/
def isAbandoned (part : Partition) : Bool :=
  match part.progress with
  | .abandoned _ => true
  | _ => false

/-- No worker has anything left to do. -/
def isSettled (part : Partition) : Bool :=
  match part.progress with
  | .finished | .abandoned _ | .panicked => true
  | _ => false

/-- Go on after a call, or at the start: there is another call to make or there is not. -/
def proceed (part : Partition) : Partition :=
  { part with progress := if part.unsent.isEmpty then .finished else .ready }

/-- Start the next call, with at most `batchSize` documents. -/
def dispatch (batchSize : Nat) (part : Partition) : Partition :=
  { part with
    unsent := part.unsent.drop batchSize
    tally := part.tally.add ⟨1, 0, 0, 0⟩
    progress := .sending (part.unsent.take batchSize) }

/-- Take in the answer to a call of these documents. -/
def receive (part : Partition) (chunk : List Entry) (outcome : Outcome (List Verdict)) :
    Partition :=
  { part with tally := part.tally.add (.ofAnswer chunk.length outcome) }.proceed

/-- What the partition adds to the report.  All documents of a partition that panicked count as not
stored, and its calls are not counted. -/
def account (part : Partition) : Tally :=
  if part.progress = .panicked then ⟨0, 0, part.documents.length, 0⟩ else part.tally

end Partition

/-! ### The write -/

/-- How a write ends: with its account, or with partitions that missed the deadline. -/
inductive Conclusion where
  | completed (total : Tally)
  | timedOut (outstanding : Nat)
  deriving DecidableEq

/-- A write. -/
structure Writing where
  poolSize : Nat
  batchSize : Nat
  deadline : Nat
  clock : Nat
  parts : List Partition
  conclusion : Option Conclusion
  deriving DecidableEq

/-- What can happen to a write; parts are given by their positions. -/
inductive Event where
  /-- The queue accepts the first part that waits. -/
  | accept
  /-- A free worker takes the part that was queued first. -/
  | start
  /-- A part makes its next call, or finds the deadline passed. -/
  | send (part : Nat)
  /-- The call of a part is answered. -/
  | answer (part : Nat) (outcome : Outcome (List Verdict))
  /-- The call of a part panics. -/
  | panic (part : Nat)
  /-- The deadline cuts off the call of a part. -/
  | cut (part : Nat)
  /-- Time goes by. -/
  | pass (nanoseconds : Nat)
  /-- Whoever waits for the write is told how it ended. -/
  | conclude

namespace Writing

/-- A write of a batch that has just found its index; it has at least one worker and sends at least
one document in a call. -/
def new (poolSize batchSize timeout : Nat) (parts : List (List Entry)) : Writing where
  poolSize := max 1 poolSize
  batchSize := max 1 batchSize
  deadline := timeout
  clock := 0
  parts := parts.map Partition.new
  conclusion := none

/-- The deadline is here. -/
def isLate (writing : Writing) : Bool := writing.deadline ≤ writing.clock

/-- The queue holds twice as many parts as there are workers. -/
def hasRoom (writing : Writing) : Bool :=
  writing.parts.countP Partition.isQueued < 2 * writing.poolSize

/-- A worker has no part. -/
def hasFreeWorker (writing : Writing) : Bool :=
  writing.parts.countP Partition.isRunning < writing.poolSize

/-- Change the part at a position. -/
def update (writing : Writing) (position : Nat) (change : Partition → Partition) : Writing :=
  { writing with parts := writing.parts.modify position change }

/-- How the write ends if whoever waits for it is told now, and whether it can end now.  When all
parts are settled the cut off ones are outstanding; when the deadline is noticed first, all parts
are that did not finish. -/
def conclusionNow? (writing : Writing) : Option Conclusion :=
  if writing.parts.all Partition.isSettled then
    let outstanding := writing.parts.countP Partition.isAbandoned
    if 0 < outstanding then some (.timedOut outstanding)
    else some (.completed ((writing.parts.map Partition.account).foldl Tally.add .zero))
  else if writing.isLate then
    some (.timedOut (writing.parts.length - writing.parts.countP Partition.isFinished))
  else none

/-- The write may be seen at a later time: up to the deadline always, and past it once the waiting
is over and no call is on its way. -/
def mayPass (writing : Writing) (nanoseconds : Nat) : Bool :=
  writing.clock + nanoseconds ≤ writing.deadline ||
    (writing.conclusion.isSome &&
      writing.parts.all (fun part => !(part.isRunning && part.progress ≠ .ready)))

/-- The write after an event, if the event is possible. -/
def step (writing : Writing) : Event → Option Writing
  | .accept =>
    if writing.hasRoom ∧ writing.conclusion = none then
      (writing.parts.findIdx? Partition.isWaiting).map (fun position =>
        writing.update position (fun part => { part with progress := .queued }))
    else none
  | .start =>
    if writing.hasFreeWorker then
      (writing.parts.findIdx? Partition.isQueued).map (fun position =>
        writing.update position Partition.proceed)
    else none
  | .send position => do
    let part ← writing.parts[position]?
    if part.progress ≠ .ready then none
    else if writing.isLate then
      some (writing.update position
        (fun part => { part with progress := .abandoned part.unsent.length }))
    else some (writing.update position (Partition.dispatch writing.batchSize))
  | .answer position outcome => do
    let part ← writing.parts[position]?
    match part.progress with
    | .sending chunk => some (writing.update position (fun part => part.receive chunk outcome))
    | _ => none
  | .panic position => do
    let part ← writing.parts[position]?
    match part.progress with
    | .sending _ =>
      some (writing.update position (fun part => { part with progress := .panicked }))
    | _ => none
  | .cut position => do
    let part ← writing.parts[position]?
    match part.progress with
    | .sending chunk =>
      if writing.isLate then
        some (writing.update position (fun part =>
          { part with progress := .abandoned (chunk.length + part.unsent.length) }))
      else none
    | _ => none
  | .pass nanoseconds =>
    if writing.mayPass nanoseconds then
      some { writing with clock := writing.clock + nanoseconds }
    else none
  | .conclude =>
    if writing.conclusion = none then
      writing.conclusionNow?.map (fun conclusion =>
        { writing with conclusion := some conclusion })
    else none

/-- The write after a sequence of events. -/
def exec (writing : Writing) : List Event → Option Writing
  | [] => some writing
  | event :: rest => (writing.step event).bind (fun after => after.exec rest)

end Writing

end RepoVitals.Bulk

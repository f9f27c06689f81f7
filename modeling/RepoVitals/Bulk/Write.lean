import RepoVitals.Bulk.Writing
import RepoVitals.Index.Presence
/-!
Bulk writes against a sink.

Owns:
- deliveries: a write together with the sink it goes to and the calls that are on their way;
- the choices that time and workers leave open, and the delivery after a choice;
- the steady schedule, in which workers take parts first come first served, calls land in the order
  in which they are due, and time passes only when nothing else can happen;
- the bulk write itself, from making sure of the index to the report.

Every choice becomes one event of the write, so whatever holds after all events holds for every sink
and every schedule.
-/

namespace RepoVitals.Bulk

open Index (Settings)
open Sink (Flight Landing)

/-! ### Deliveries -/

/-- A call that is on its way, with the time at which it is due. -/
structure Airborne where
  part : Nat
  chunk : List Entry
  due : Nat
  flight : Flight

/-- A write, its index, the state of the sink, and the calls on their way, in the order in which
they started. -/
structure Delivery (σ : Type) where
  index : String
  writing : Writing
  sink : σ
  airborne : List Airborne

/-- What workers, clock and sink can do next. -/
inductive Choice where
  | accept
  | start
  | send (part : Nat)
  | land (part : Nat)
  | cut (part : Nat)
  | pass (nanoseconds : Nat)
  | conclude
  deriving DecidableEq

namespace Delivery

variable {σ : Type}

/-- The event of a landed call. -/
def eventOf (part : Nat) : Landing → Event
  | .answered outcome => .answer part outcome
  | .panicked => .panic part

/-- The delivery after a write event that the sink does not see. -/
def quietly (delivery : Delivery σ) (event : Event) : Option (Delivery σ) :=
  (delivery.writing.step event).map (fun writing => { delivery with writing := writing })

/-- The delivery after a part has made its next call, or has found the deadline passed. -/
def send (sink : Sink σ) (delivery : Delivery σ) (part : Nat) : Option (Delivery σ) := do
  let writing ← delivery.writing.step (.send part)
  match (writing.parts[part]?).map Partition.progress with
  | some (.sending chunk) =>
    let (flight, after) := sink.takeOff delivery.sink delivery.index chunk
    some { delivery with
      writing := writing
      sink := after
      airborne := delivery.airborne ++ [⟨part, chunk, writing.clock + flight.delay, flight⟩] }
  | _ => some { delivery with writing := writing }

/-- The delivery after the call of a part has landed; it must be due. -/
def land (sink : Sink σ) (delivery : Delivery σ) (part : Nat) : Option (Delivery σ) := do
  let call ← delivery.airborne.find? (fun call => call.part = part)
  if delivery.writing.clock < call.due then none
  else
    let (landing, after) := sink.land delivery.sink delivery.index call.chunk call.flight
    let writing ← delivery.writing.step (eventOf part landing)
    some { delivery with
      writing := writing
      sink := after
      airborne := delivery.airborne.filter (fun call => call.part ≠ part) }

/-- The delivery after the deadline has cut off the call of a part. -/
def cut (delivery : Delivery σ) (part : Nat) : Option (Delivery σ) := do
  let writing ← delivery.writing.step (.cut part)
  some { delivery with
    writing := writing
    airborne := delivery.airborne.filter (fun call => call.part ≠ part) }

/-- Time passes only up to the next call that is due. -/
def pass (delivery : Delivery σ) (nanoseconds : Nat) : Option (Delivery σ) :=
  if delivery.airborne.all (fun call => delivery.writing.clock + nanoseconds ≤ call.due) then
    delivery.quietly (.pass nanoseconds)
  else none

/-- The delivery after a choice, if the choice is possible. -/
def step (sink : Sink σ) (delivery : Delivery σ) : Choice → Option (Delivery σ)
  | .accept => delivery.quietly .accept
  | .start => delivery.quietly .start
  | .send part => delivery.send sink part
  | .land part => delivery.land sink part
  | .cut part => delivery.cut part
  | .pass nanoseconds => delivery.pass nanoseconds
  | .conclude => delivery.quietly .conclude

/-- The delivery after a sequence of choices. -/
def exec (sink : Sink σ) (delivery : Delivery σ) : List Choice → Option (Delivery σ)
  | [] => some delivery
  | choice :: rest => (delivery.step sink choice).bind (fun after => after.exec sink rest)

/-! ### The steady schedule -/

/-- The time at which something is due next: a call, or the deadline. -/
def nextDue (delivery : Delivery σ) : Nat :=
  delivery.airborne.foldl (fun earliest call => min earliest call.due) delivery.writing.deadline

/-- What happens next.  The deadline comes before everything.  A worker goes on with its part until
a call takes time, and then with the next part in the queue; only then do other calls land that are
due by now, and only after all workers does the queue take more parts. -/
def next? (delivery : Delivery σ) : Option Choice :=
  let writing := delivery.writing
  if writing.conclusion.isSome then none
  else if writing.isLate then some .conclude
  else
    match writing.parts.findIdx? (fun part => part.progress = .ready) with
    | some part => some (.send part)
    | none =>
      match delivery.airborne.find? (fun call => call.flight.delay = 0) with
      | some call => some (.land call.part)
      | none =>
        if writing.hasFreeWorker ∧ writing.parts.any Partition.isQueued then some .start
        else
          match delivery.airborne.find? (fun call => call.due ≤ writing.clock) with
          | some call => some (.land call.part)
          | none =>
            if writing.hasRoom ∧ writing.parts.any Partition.isWaiting then some .accept
            else if writing.parts.all Partition.isSettled then some .conclude
            else some (.pass (delivery.nextDue - writing.clock))

/-- Follow the steady schedule for at most this many choices. -/
def follow (sink : Sink σ) : Nat → Delivery σ → Delivery σ
  | 0, delivery => delivery
  | limit + 1, delivery =>
    match delivery.next?.bind (delivery.step sink) with
    | none => delivery
    | some after => follow sink limit after

/-- More choices than the steady schedule can make: every document takes part in at most one call,
which starts, waits and lands, every part is accepted and started, and the write is concluded. -/
def choiceLimit (delivery : Delivery σ) : Nat :=
  3 * (delivery.writing.parts.flatMap Partition.documents).length +
    2 * delivery.writing.parts.length + 2

end Delivery

/-! ### The bulk write -/

/-- How a write goes about it; the timeout is in nanoseconds. -/
structure WriteOptions where
  parallelism : Nat
  batchSize : Nat
  timeout : Nat
  deriving DecidableEq

/-- How a write went. -/
structure WriteReport where
  index : String
  documents : Nat
  partitions : Nat
  total : Tally
  elapsed : Nat
  deriving DecidableEq

/-- Everything that stays the same from write to write. -/
structure Writer (σ : Type) where
  sink : Sink σ
  settings : Settings
  poolSize : Nat

namespace Writer

variable {σ : Type}

/-- The report of a write that had nothing to write. -/
def nothingToWrite (index : String) : WriteReport := ⟨index, 0, 0, .zero, 0⟩

/-- The delivery of a batch whose index exists. -/
def delivery (writer : Writer σ) (options : WriteOptions) (batch : Batch) (index : String)
    (state : σ) : Delivery σ :=
  let documents := batch.documents
  let ranges := partition documents.length options.parallelism options.batchSize
  { index := index
    writing := .new writer.poolSize options.batchSize options.timeout
      (ranges.map (fun range => range.slice documents))
    sink := state
    airborne := [] }

/-- What a concluded write reports. -/
def outcomeOf (options : WriteOptions) (delivery : Delivery σ) : Outcome WriteReport :=
  match delivery.writing.conclusion with
  | some (.completed total) =>
    .ok {
      index := delivery.index
      documents := (delivery.writing.parts.flatMap Partition.documents).length
      partitions := delivery.writing.parts.length
      total := total
      elapsed := delivery.writing.clock }
  | some (.timedOut outstanding) =>
    .error (.ofCause (.bulkWriteTimeout delivery.index options.timeout outstanding))
  | none =>
    .error (.ofCause
      (.bulkWriteTimeout delivery.index options.timeout delivery.writing.parts.length))

/-- Write a batch into an index.  An empty batch touches nothing, and a write whose index cannot be
ensured makes no bulk call. -/
def write (writer : Writer σ) (options : WriteOptions) (batch : Batch) (index : String)
    (state : σ) : Outcome WriteReport × σ :=
  if batch.documents.isEmpty then (.ok (nothingToWrite index), state)
  else
    match Index.ensure writer.sink writer.settings index state with
    | (.error failure, after) => (.error failure, after)
    | (.ok (), after) =>
      let start := writer.delivery options batch index after
      let final := start.follow writer.sink start.choiceLimit
      (outcomeOf options final, final.sink)

end Writer

end RepoVitals.Bulk

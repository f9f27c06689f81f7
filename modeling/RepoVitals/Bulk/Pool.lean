/-!
The worker pool: a fixed number of workers that take jobs from a bounded queue.

Owns:
- the state of the pool, with jobs numbered in the order in which they were accepted;
- its events, each of which is possible only in some states;
- what the receiver of a job gets.

The queue holds twice as many jobs as there are workers.  A panic ends its job and nothing else: the
worker takes the next one.  Closing the pool keeps new jobs out, and the workers leave when nothing
is left to take.  Aborting it ends the workers wherever they wait; what they hold and what is still
queued is dropped then.
-/

namespace RepoVitals.Bulk

/-- What a worker does. -/
inductive Worker where
  | idle
  | busy (job : Nat)
  | gone
  deriving DecidableEq

/-- The jobs that a worker holds, at most one. -/
def Worker.held : Worker → List Nat
  | .busy job => [job]
  | .idle | .gone => []

/-- How a job ended. -/
inductive Ending (α : Type) where
  | completed (output : α)
  | panicked
  | dropped
  deriving DecidableEq

/-- What a pool lets happen. -/
inductive Phase where
  | working
  | closed
  | aborted
  deriving DecidableEq

/-- A pool whose jobs have outputs of a type; `queued` has the oldest job first. -/
structure Pool (α : Type) where
  accepted : Nat
  queued : List Nat
  workers : List Worker
  ended : List (Nat × Ending α)
  phase : Phase
  deriving DecidableEq

/-- What can happen to a pool.  A job that works goes on until it waits again.  After an abort the
workers are interrupted one by one, and the queue is discarded when none of them is left. -/
inductive PoolEvent (α : Type) where
  | accept
  | start (worker job : Nat)
  | work (worker job : Nat)
  | complete (worker job : Nat) (output : α)
  | panic (worker job : Nat)
  | leave (worker : Nat)
  | close
  | abort
  | interrupt (worker job : Nat)
  | discard (job : Nat)
  deriving DecidableEq

/-- What the receiver of a job gets. -/
inductive Receipt (α : Type) where
  | pending
  | output (value : α)
  | lost
  deriving DecidableEq

namespace Pool

variable {α : Type}

/-- A pool without jobs; it has at least one worker. -/
def new (size : Nat) : Pool α := ⟨0, [], List.replicate (max 1 size) .idle, [], .working⟩

/-- How many jobs the queue can hold. -/
def capacity (pool : Pool α) : Nat := 2 * pool.workers.length

/-- The queue takes another job. -/
def hasRoom (pool : Pool α) : Bool :=
  pool.phase = .working && pool.queued.length < pool.capacity

/-- The jobs that the workers hold. -/
def running (pool : Pool α) : List Nat := pool.workers.flatMap Worker.held

/-- Every worker is gone. -/
def isEmpty (pool : Pool α) : Bool := pool.workers.all (· = .gone)

/-- An idle worker has nothing to wait for. -/
def isOver (pool : Pool α) : Bool :=
  pool.phase = .aborted || (pool.phase = .closed && pool.queued.isEmpty)

/-- The pool with a worker doing something else. -/
def assign (pool : Pool α) (worker : Nat) (state : Worker) : Pool α :=
  { pool with workers := pool.workers.set worker state }

/-- The pool with another job at its end. -/
def endJob (pool : Pool α) (job : Nat) (ending : Ending α) : Pool α :=
  { pool with ended := pool.ended ++ [(job, ending)] }

/-- The pool after an event, if the event is possible. -/
def step (pool : Pool α) : PoolEvent α → Option (Pool α)
  | .accept =>
    if pool.hasRoom then
      some { pool with accepted := pool.accepted + 1, queued := pool.queued ++ [pool.accepted] }
    else none
  | .start worker job =>
    if pool.phase ≠ .aborted ∧ pool.workers[worker]? = some .idle ∧
        pool.queued.head? = some job then
      some { pool with
        queued := pool.queued.tail
        workers := pool.workers.set worker (.busy job) }
    else none
  | .work worker job =>
    if pool.phase ≠ .aborted ∧ pool.workers[worker]? = some (.busy job) then some pool else none
  | .complete worker job output =>
    if pool.phase ≠ .aborted ∧ pool.workers[worker]? = some (.busy job) then
      some ((pool.assign worker .idle).endJob job (.completed output))
    else none
  | .panic worker job =>
    if pool.phase ≠ .aborted ∧ pool.workers[worker]? = some (.busy job) then
      some ((pool.assign worker .idle).endJob job .panicked)
    else none
  | .leave worker =>
    if pool.isOver ∧ pool.workers[worker]? = some .idle then some (pool.assign worker .gone)
    else none
  | .close => if pool.phase = .working then some { pool with phase := .closed } else none
  | .abort => if pool.phase = .working then some { pool with phase := .aborted } else none
  | .interrupt worker job =>
    if pool.phase = .aborted ∧ pool.workers[worker]? = some (.busy job) then
      some ((pool.assign worker .gone).endJob job .dropped)
    else none
  | .discard job =>
    if pool.phase = .aborted ∧ pool.isEmpty ∧ pool.queued.head? = some job then
      some ({ pool with queued := pool.queued.tail }.endJob job .dropped)
    else none

/-- The pool after a sequence of events. -/
def exec (pool : Pool α) : List (PoolEvent α) → Option (Pool α)
  | [] => some pool
  | event :: rest => (pool.step event).bind (fun after => after.exec rest)

/-- A closed pool has shut down when every worker has left. -/
def hasShutDown (pool : Pool α) : Bool := pool.phase = .closed && pool.isEmpty

/-- An aborted pool is gone when nothing of it is left. -/
def isGone (pool : Pool α) : Bool :=
  pool.phase = .aborted && pool.isEmpty && pool.queued.isEmpty

/-- How a job ended, if it did. -/
def ending? (pool : Pool α) (job : Nat) : Option (Ending α) :=
  (pool.ended.find? (fun entry => entry.1 = job)).map Prod.snd

/-- What the receiver of a job gets: the output of a job that completed, and an error once the job
has ended without one. -/
def receipt (pool : Pool α) (job : Nat) : Receipt α :=
  match pool.ending? job with
  | none => .pending
  | some (.completed output) => .output output
  | some _ => .lost

end Pool

end RepoVitals.Bulk

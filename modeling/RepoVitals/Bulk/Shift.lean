import RepoVitals.Bulk.Pool
/-!
Shifts: a pool that works off a list of jobs, on its own clock.

Owns:
- jobs that take some time and then end, with an output or in a panic;
- the steady course of a shift: the submitter hands in jobs while the queue has room, then the
  workers go on until every one of them waits, and only then does time pass;
- the two ways in which a shift ends, by closing the pool or by aborting it.

Every change of the pool is one of its events.  Times are in nanoseconds.
-/

namespace RepoVitals.Bulk

/-- A job: how long it takes, and its output; a job without one panics in the end. -/
structure JobPlan (α : Type) where
  duration : Nat
  output? : Option α
  deriving DecidableEq

/-- A pool at work: the time, and the running jobs with the times at which they are due. -/
structure Shift (α : Type) where
  pool : Pool α
  clock : Nat
  due : List (Nat × Nat)
  deriving DecidableEq

namespace Shift

variable {α : Type}

/-- A shift that has not begun. -/
def new (size : Nat) : Shift α := ⟨Pool.new size, 0, []⟩

/-- The shift after a pool event, or unchanged if the event is not possible. -/
def apply (shift : Shift α) (event : PoolEvent α) : Shift α :=
  { shift with pool := (shift.pool.step event).getD shift.pool }

/-- The plan of a job. -/
def planOf (plans : List (JobPlan α)) (job : Nat) : JobPlan α := plans.getD job ⟨0, none⟩

/-- How a job ends on the worker that holds it. -/
def endOf (plans : List (JobPlan α)) (pool : Pool α) (job : Nat) : PoolEvent α :=
  let worker := pool.workers.idxOf (.busy job)
  match (planOf plans job).output? with
  | some output => .complete worker job output
  | none => .panic worker job

/-- End a job that is due. -/
def finish (plans : List (JobPlan α)) (shift : Shift α) (job : Nat) : Shift α :=
  { shift.apply (endOf plans shift.pool job) with
    due := shift.due.filter (fun entry => entry.1 ≠ job) }

/-- Let the workers go on until each of them waits: jobs that are due end, and idle workers take
queued jobs. -/
def settle (plans : List (JobPlan α)) : Nat → Shift α → Shift α
  | 0, shift => shift
  | limit + 1, shift =>
    match shift.due.find? (fun entry => entry.2 ≤ shift.clock) with
    | some (job, _) => settle plans limit (shift.finish plans job)
    | none =>
      match shift.pool.queued with
      | [] => shift
      | job :: _ =>
        match shift.pool.step (.start (shift.pool.workers.idxOf .idle) job) with
        | some pool =>
          settle plans limit
            ⟨pool, shift.clock, shift.due ++ [(job, shift.clock + (planOf plans job).duration)]⟩
        | none => shift

/-- The time at which the next running job is due. -/
def nextDue? (shift : Shift α) : Option Nat :=
  (shift.due.map Prod.snd).min?

/-- Let time pass until the next running job is due, and let the workers go on. -/
def advance (plans : List (JobPlan α)) (limit : Nat) (shift : Shift α) : Shift α :=
  match shift.nextDue? with
  | none => shift
  | some time => settle plans limit { shift with clock := max shift.clock time }

/-- Hand in jobs while the queue has room; the rest is returned. -/
def handIn : Nat → Shift α → Nat × Shift α
  | 0, shift => (0, shift)
  | remaining + 1, shift =>
    if shift.pool.hasRoom then handIn remaining (shift.apply .accept) else (remaining + 1, shift)

/-- Hand in all jobs.  When the queue is full the workers go on, and if that makes no room time
passes. -/
def submit (plans : List (JobPlan α)) (limit : Nat) : Nat → Nat → Shift α → Shift α
  | 0, _, shift => shift
  | rounds + 1, remaining, shift =>
    match handIn remaining shift with
    | (0, after) => after
    | (left + 1, after) =>
      let settled := settle plans limit after
      let ready := if settled.pool.hasRoom then settled else settled.advance plans limit
      submit plans limit rounds (left + 1) ready

/-- Let the shift go on up to a time, at which the submitter comes first. -/
def waitUntil (plans : List (JobPlan α)) (limit time : Nat) : Nat → Shift α → Shift α
  | 0, shift => shift
  | rounds + 1, shift =>
    match shift.nextDue? with
    | some due =>
      if due < time then waitUntil plans limit time rounds (shift.advance plans limit)
      else { shift with clock := time }
    | none => { shift with clock := time }

/-- Let the shift go on until nothing is left. -/
def drain (plans : List (JobPlan α)) (limit : Nat) : Nat → Shift α → Shift α
  | 0, shift => shift
  | rounds + 1, shift =>
    if shift.due.isEmpty then shift else drain plans limit rounds (shift.advance plans limit)

/-- End a worker that has nothing to wait for, together with the job it may hold. -/
def dismiss (shift : Shift α) (worker : Nat) : Shift α :=
  match shift.pool.workers[worker]? with
  | some (.busy job) => shift.apply (.interrupt worker job)
  | _ => shift.apply (.leave worker)

/-- End all workers, and then what is left of the queue. -/
def dissolve (shift : Shift α) : Shift α :=
  let left := (List.range shift.pool.workers.length).foldl dismiss shift
  left.pool.queued.foldl (fun shift job => shift.apply (.discard job)) left

/-- A whole shift: all jobs are handed in, some time passes, and the pool is closed and drained or
aborted. -/
def run (size : Nat) (plans : List (JobPlan α)) (wait : Nat) (aborts : Bool) : Shift α :=
  let limit := 2 * plans.length + 1
  let submitted := submit plans limit limit plans.length (new size)
  let waited :=
    if wait = 0 then submitted
    else
      waitUntil plans limit (submitted.clock + wait) limit (settle plans limit submitted)
  if aborts then (waited.apply .abort).dissolve
  else (drain plans limit limit (settle plans limit (waited.apply .close))).dissolve

end Shift

end RepoVitals.Bulk

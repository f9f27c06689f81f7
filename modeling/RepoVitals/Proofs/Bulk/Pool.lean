import Mathlib.Data.List.Nodup
import Mathlib.Data.List.Perm.Basic
import RepoVitals.Proofs.Bulk.Runs
/-!
The safety of the worker pool.

Owns:
- what the invariant of its runs says about limits, order, receipts and a shutdown;
- `Pool.Alike`: pools that differ in how one job ended and in nothing else stay so;
- what is left to an aborted pool, and that it comes to an end;
- `safe_of_exec`, all of it for every size and every possible sequence of events.
-/

namespace RepoVitals.Bulk

variable {α : Type}

namespace Pool

open PoolEvent

variable {pool after : Pool α} {event : PoolEvent α} {events : List (PoolEvent α)} {size : Nat}

/-! ### What the invariant gives -/

namespace Kept

theorem nodup_ended (kept : Kept size events pool) : (pool.ended.map Prod.fst).Nodup := by
  have range : (starts events ++ discards events).Nodup := by
    have whole : (starts events ++ (discards events ++ pool.queued)).Nodup :=
      kept.order ▸ List.nodup_range
    rw [← List.append_assoc] at whole
    exact (List.nodup_append.mp whole).1
  exact (List.nodup_append.mp (kept.placed.nodup_iff.mpr range)).2.1

theorem ending_iff (kept : Kept size events pool) (job : Nat) (ending : Ending α) :
    pool.ending? job = some ending ↔ ∃ event ∈ events, event.ended? = some (job, ending) := by
  have filed : pool.ending? job = some ending ↔ (job, ending) ∈ pool.ended := by
    rw [ending?, Option.map_eq_some_iff]
    constructor
    · rintro ⟨⟨other, _⟩, found, rfl⟩
      have same : other = job := by simpa using List.find?_some found
      exact same ▸ List.mem_of_find?_eq_some found
    · intro isThere
      obtain ⟨entry, found⟩ : ∃ entry, pool.ended.find? (fun entry => entry.1 = job) = some entry :=
        Option.isSome_iff_exists.mp (List.find?_isSome.mpr ⟨_, isThere, by simp⟩)
      have same : entry.1 = job := by simpa using List.find?_some found
      have entryIn := List.mem_of_find?_eq_some found
      have equal : entry = (job, ending) :=
        List.inj_on_of_nodup_map kept.nodup_ended entryIn isThere same
      exact ⟨entry, found, by rw [equal]⟩
  rw [filed, kept.endings, PoolEvent.endings, List.mem_filterMap]

theorem running_le (kept : Kept size events pool) : pool.running.length ≤ max 1 size := by
  have atMost : ∀ workers : List Worker,
      (workers.flatMap Worker.held).length ≤ workers.length := by
    intro workers
    induction workers with
    | nil => simp
    | cons worker rest ih =>
      have one : worker.held.length ≤ 1 := by cases worker <;> simp [Worker.held]
      rw [List.flatMap_cons, List.length_append, List.length_cons]
      omega
  exact kept.crew ▸ atMost pool.workers

/-- Jobs start in the order in which they were accepted, and none of them twice. -/
theorem starts_eq (kept : Kept size events pool) :
    starts events = List.range (starts events).length ∧
      (starts events).length ≤ pool.accepted := by
  have isPrefix : starts events <+: List.range pool.accepted := ⟨_, kept.order⟩
  have length := isPrefix.length_le
  rw [List.length_range] at length
  have same := List.prefix_iff_eq_take.mp isPrefix
  rw [List.take_range, Nat.min_eq_left length] at same
  exact ⟨same, length⟩

theorem output_iff (kept : Kept size events pool) (job : Nat) (output : α) :
    pool.receipt job = .output output ↔ ∃ worker, .complete worker job output ∈ events := by
  have completed : pool.receipt job = .output output ↔
      pool.ending? job = some (.completed output) := by
    rw [receipt]
    split <;> simp_all
  rw [completed, kept.ending_iff]
  simp only [ended?_completed]
  exact ⟨fun ⟨_, isThere, worker, same⟩ => ⟨worker, same ▸ isThere⟩,
    fun ⟨worker, isThere⟩ => ⟨_, isThere, worker, rfl⟩⟩

theorem lost_iff (kept : Kept size events pool) (job : Nat) :
    pool.receipt job = .lost ↔
      (∃ worker, .panic worker job ∈ events) ∨
        (∃ worker, .interrupt worker job ∈ events) ∨ .discard job ∈ events := by
  have ended : pool.receipt job = .lost ↔
      pool.ending? job = some .panicked ∨ pool.ending? job = some .dropped := by
    rw [receipt]
    split
    · simp_all
    · simp_all
    · rename_i other _ found
      cases other <;> simp_all
  rw [ended, kept.ending_iff, kept.ending_iff]
  simp only [ended?_panicked, ended?_dropped]
  constructor
  · rintro (⟨_, isThere, worker, rfl⟩ | ⟨_, isThere, ⟨worker, rfl⟩ | rfl⟩)
    · exact .inl ⟨worker, isThere⟩
    · exact .inr (.inl ⟨worker, isThere⟩)
    · exact .inr (.inr isThere)
  · rintro (⟨worker, isThere⟩ | ⟨worker, isThere⟩ | isThere)
    · exact .inl ⟨_, isThere, worker, rfl⟩
    · exact .inr ⟨_, isThere, .inl ⟨worker, rfl⟩⟩
    · exact .inr ⟨_, isThere, .inr rfl⟩

theorem abort_of_dropped (kept : Kept size events pool) {job : Nat}
    (isDropped : (∃ worker, .interrupt worker job ∈ events) ∨ .discard job ∈ events) :
    .abort ∈ events := by
  rw [← kept.aborted]
  by_contra active
  refine (kept.calm active).2 job ?_
  rw [kept.endings, PoolEvent.endings, List.mem_filterMap]
  rcases isDropped with ⟨worker, isThere⟩ | isThere
  · exact ⟨_, isThere, rfl⟩
  · exact ⟨_, isThere, rfl⟩

/-- While a job waits and a worker is free, a worker can take the job. -/
theorem exists_start (kept : Kept size events pool) (active : pool.phase ≠ .aborted)
    (waiting : pool.queued ≠ []) (free : pool.running.length < max 1 size) :
    ∃ worker job next, pool.step (.start worker job) = some next := by
  have noneGone : .gone ∉ pool.workers := fun isGone => by
    have spent := kept.serving isGone
    simp [isOver, active, waiting] at spent
  have someIdle : .idle ∈ pool.workers := by
    by_contra noneIdle
    have full : ∀ workers : List Worker, .gone ∉ workers → .idle ∉ workers →
        (workers.flatMap Worker.held).length = workers.length := by
      intro workers noneGone noneIdle
      induction workers with
      | nil => rfl
      | cons worker rest ih =>
        simp only [List.mem_cons, not_or] at noneGone noneIdle
        cases worker with
        | idle => exact absurd rfl noneIdle.1
        | gone => exact absurd rfl noneGone.1
        | busy job =>
          rw [List.flatMap_cons, List.length_append, ih noneGone.2 noneIdle.2]
          simp [Worker.held, Nat.add_comm]
    have := full pool.workers noneGone noneIdle
    have crew := kept.crew
    rw [running] at free
    omega
  obtain ⟨worker, found⟩ := List.mem_iff_getElem?.mp someIdle
  obtain ⟨job, rest, queued⟩ := List.exists_cons_of_ne_nil waiting
  exact ⟨worker, job, _, if_pos ⟨active, found, by rw [queued]; rfl⟩⟩

/-- When no job is held and none waits, all of them have ended. -/
theorem exists_ending (kept : Kept size events pool) (noneHeld : pool.running = [])
    (noneWaits : pool.queued = []) {job : Nat} (accepted : job < pool.accepted) :
    ∃ ending, pool.ending? job = some ending := by
  have order := kept.order
  rw [noneWaits, List.append_nil] at order
  have placed := kept.placed
  rw [noneHeld, List.nil_append, order] at placed
  have isPlaced := placed.mem_iff.mpr (List.mem_range.mpr accepted)
  obtain ⟨⟨_, ending⟩, isThere, rfl⟩ := List.mem_map.mp isPlaced
  refine ⟨ending, (kept.ending_iff _ ending).mpr ?_⟩
  rwa [kept.endings, PoolEvent.endings, List.mem_filterMap] at isThere

theorem running_of_isEmpty (empty : pool.isEmpty = true) : pool.running = [] := by
  rw [running, List.flatMap_eq_nil_iff]
  intro worker isWorker
  have isGone := List.all_eq_true.mp empty worker isWorker
  rw [of_decide_eq_true isGone]
  rfl

theorem ended_of_hasShutDown (kept : Kept size events pool) (down : pool.hasShutDown = true)
    {job : Nat} (accepted : job < pool.accepted) :
    (∃ worker output, .complete worker job output ∈ events) ∨
      ∃ worker, .panic worker job ∈ events := by
  rw [hasShutDown, Bool.and_eq_true, decide_eq_true_eq] at down
  obtain ⟨closed, empty⟩ := down
  have active : pool.phase ≠ .aborted := by simp [closed]
  -- Workers leave a closed pool only when the queue is empty, and there is at least one.
  have noneWaits : pool.queued = [] := by
    have someWorker : 0 < pool.workers.length := kept.crew ▸ Nat.le_max_left 1 size
    have isGone := List.all_eq_true.mp empty _ (List.getElem_mem someWorker)
    have spent := kept.serving (of_decide_eq_true isGone ▸ List.getElem_mem someWorker)
    simpa [isOver, closed] using spent
  obtain ⟨ending, found⟩ := kept.exists_ending (running_of_isEmpty empty) noneWaits accepted
  obtain ⟨event, isThere, ends⟩ := (kept.ending_iff job ending).mp found
  cases ending with
  | completed output =>
    obtain ⟨worker, rfl⟩ := ended?_completed.mp ends
    exact .inl ⟨worker, output, isThere⟩
  | panicked =>
    obtain ⟨worker, rfl⟩ := ended?_panicked.mp ends
    exact .inr ⟨worker, isThere⟩
  | dropped =>
    refine absurd ?_ ((kept.calm active).2 job)
    rw [kept.endings, PoolEvent.endings, List.mem_filterMap]
    exact ⟨event, isThere, ends⟩

end Kept

/-! ### One job does not touch another -/

/-- Pools that differ at most in how a job ended. -/
structure Alike (job : Nat) (left right : Pool α) : Prop where
  accepted : right.accepted = left.accepted
  queued : right.queued = left.queued
  workers : right.workers = left.workers
  phase : right.phase = left.phase
  others : ∀ other ≠ job, right.ending? other = left.ending? other

theorem ending?_endJob (pool : Pool α) (job other : Nat) (ending : Ending α) :
    (pool.endJob job ending).ending? other =
      (pool.ending? other).or (if job = other then some ending else none) := by
  simp only [ending?, endJob, List.find?_append, Option.map_or, List.find?_singleton]
  by_cases same : job = other <;> simp [same]

namespace Alike

variable {job : Nat} {left right : Pool α}

/-- No event asks how a job has ended, so what is possible on one side is possible on the other. -/
theorem step (alike : Alike job left right) (steps : left.step event = some after) :
    ∃ other, right.step event = some other ∧ Alike job after other := by
  obtain ⟨accepted, queued, workers, phase, others⟩ := alike
  obtain ⟨_, _, _, ended, _⟩ := left
  obtain ⟨_, _, _, otherEnded, _⟩ := right
  cases accepted
  cases queued
  cases workers
  cases phase
  cases event with
  | accept | start | work | leave | close | abort =>
    simp only [Pool.step, Option.ite_none_right_eq_some, Option.some.injEq] at steps ⊢
    obtain ⟨guard, rfl⟩ := steps
    exact ⟨_, ⟨guard, rfl⟩, rfl, rfl, rfl, rfl, others⟩
  | complete | panic | interrupt | discard =>
    simp only [Pool.step, Option.ite_none_right_eq_some, Option.some.injEq] at steps ⊢
    obtain ⟨guard, rfl⟩ := steps
    refine ⟨_, ⟨guard, rfl⟩, rfl, rfl, rfl, rfl, fun other different => ?_⟩
    rw [ending?_endJob, ending?_endJob]
    exact congrArg (Option.or · _) (others other different)

theorem exec (alike : Alike job left right) (run : left.exec events = some after) :
    ∃ other, right.exec events = some other ∧ Alike job after other := by
  induction events generalizing left right with
  | nil =>
    cases run
    exact ⟨right, rfl, alike⟩
  | cons event rest ih =>
    obtain ⟨next, steps, runs⟩ := Option.bind_eq_some_iff.mp run
    obtain ⟨otherNext, otherSteps, nextAlike⟩ := alike.step steps
    obtain ⟨other, otherRuns, afterAlike⟩ := ih nextAlike runs
    exact ⟨other, Option.bind_eq_some_iff.mpr ⟨otherNext, otherSteps, otherRuns⟩, afterAlike⟩

theorem receipt (alike : Alike job left right) {other : Nat} (different : other ≠ job) :
    right.receipt other = left.receipt other := by
  rw [Pool.receipt, Pool.receipt, alike.others other different]

end Alike

/-- Had a job completed where it panicked, everything else would have happened all the same. -/
theorem exists_alike_of_panic {start : Pool α} {before later : List (PoolEvent α)}
    {worker job : Nat} (output : α)
    (run : start.exec (before ++ .panic worker job :: later) = some pool) :
    ∃ other, start.exec (before ++ .complete worker job output :: later) = some other ∧
      Alike job pool other := by
  rw [exec_append] at run ⊢
  obtain ⟨held, first, rest⟩ := Option.bind_eq_some_iff.mp run
  obtain ⟨next, panics, runs⟩ := Option.bind_eq_some_iff.mp rest
  simp only [step, Option.ite_none_right_eq_some, Option.some.injEq] at panics
  obtain ⟨guard, rfl⟩ := panics
  have alike : Alike job ((held.assign worker .idle).endJob job .panicked)
      ((held.assign worker .idle).endJob job (.completed output)) := by
    refine ⟨rfl, rfl, rfl, rfl, fun other different => ?_⟩
    rw [ending?_endJob, ending?_endJob, if_neg different.symm, if_neg different.symm]
  obtain ⟨other, otherRuns, result⟩ := alike.exec runs
  refine ⟨other, ?_, result⟩
  rw [first]
  exact Option.bind_eq_some_iff.mpr
    ⟨held, rfl, Option.bind_eq_some_iff.mpr ⟨_, if_pos guard, otherRuns⟩⟩

/-! ### After an abort -/

theorem step_of_aborted (aborted : pool.phase = .aborted) (steps : pool.step event = some after) :
    event.isRemoval = true ∧ after.phase = .aborted := by
  cases event with
  | accept | start | work | complete | panic | close | abort =>
    simp [step, hasRoom, aborted] at steps
  | leave | interrupt | discard =>
    simp only [step, Option.ite_none_right_eq_some, Option.some.injEq] at steps
    obtain ⟨-, rfl⟩ := steps
    exact ⟨rfl, aborted⟩

theorem isRemoval_of_aborted (aborted : pool.phase = .aborted)
    (run : pool.exec events = some after) : ∀ event ∈ events, event.isRemoval = true := by
  induction events generalizing pool with
  | nil => simp
  | cons event rest ih =>
    obtain ⟨next, steps, runs⟩ := Option.bind_eq_some_iff.mp run
    obtain ⟨removal, still⟩ := step_of_aborted aborted steps
    exact List.forall_mem_cons.mpr ⟨removal, ih still runs⟩

/-- The workers and the queued jobs that an aborted pool still has. -/
def remainder (pool : Pool α) : Nat :=
  pool.workers.countP (· ≠ .gone) + pool.queued.length

theorem countP_set_gone {workers : List Worker} {worker : Nat} {old : Worker}
    (found : workers[worker]? = some old) (present : old ≠ .gone) :
    (workers.set worker .gone).countP (· ≠ .gone) + 1 = workers.countP (· ≠ .gone) := by
  induction workers generalizing worker with
  | nil => simp at found
  | cons head tail ih =>
    cases worker with
    | zero =>
      cases Option.some.inj found
      simp [present]
    | succ worker =>
      have inner := @ih worker (by simpa using found)
      simp only [List.set_cons_succ, List.countP_cons]
      omega

/-- An aborted pool goes on to lose something until it is gone. -/
theorem isGone_or_step (aborted : pool.phase = .aborted) :
    pool.isGone = true ∨
      ∃ event next, pool.step event = some next ∧ next.remainder < pool.remainder := by
  by_cases empty : pool.isEmpty = true
  · cases queued : pool.queued with
    | nil => exact .inl (by simp [isGone, aborted, empty, queued])
    | cons job rest =>
      refine .inr ⟨.discard job, _, if_pos ⟨aborted, empty, by rw [queued]; rfl⟩, ?_⟩
      simp [remainder, endJob, queued]
  · obtain ⟨worker, isWorker, present⟩ : ∃ worker ∈ pool.workers, worker ≠ .gone := by
      simpa [isEmpty] using empty
    obtain ⟨position, found⟩ := List.mem_iff_getElem?.mp isWorker
    have fewer := countP_set_gone found present
    cases worker with
    | idle =>
      refine .inr ⟨.leave position, _, if_pos ⟨by simp [isOver, aborted], found⟩, ?_⟩
      change (pool.workers.set position .gone).countP (· ≠ .gone) + pool.queued.length < _
      rw [remainder]
      omega
    | busy job =>
      refine .inr ⟨.interrupt position job, _, if_pos ⟨aborted, found⟩, ?_⟩
      change (pool.workers.set position .gone).countP (· ≠ .gone) + pool.queued.length < _
      rw [remainder]
      omega
    | gone => exact absurd rfl present

theorem exists_isGone (aborted : pool.phase = .aborted) :
    ∃ events after, pool.exec events = some after ∧ after.isGone = true := by
  induction rest : pool.remainder using Nat.strongRecOn generalizing pool with
  | _ count ih =>
    rcases isGone_or_step aborted with gone | ⟨event, next, steps, less⟩
    · exact ⟨[], pool, rfl, gone⟩
    · obtain ⟨events, after, runs, gone⟩ :=
        ih next.remainder (rest ▸ less) (step_of_aborted aborted steps).2 rfl
      exact ⟨event :: events, after, Option.bind_eq_some_iff.mpr ⟨next, steps, runs⟩, gone⟩

theorem Kept.receipt_of_isGone (kept : Kept size events pool) (gone : pool.isGone = true)
    {job : Nat} (accepted : job < pool.accepted) : pool.receipt job ≠ .pending := by
  simp only [isGone, Bool.and_eq_true, List.isEmpty_iff] at gone
  obtain ⟨ending, found⟩ :=
    kept.exists_ending (Kept.running_of_isEmpty gone.1.2) gone.2 accepted
  rw [receipt, found]
  cases ending <;> simp

/-! ### Safety -/

/-- What holds of a pool of a size after a sequence of events. -/
structure Safe (size : Nat) (events : List (PoolEvent α)) (pool : Pool α) : Prop where
  /-- No more jobs run at once than there are workers. -/
  running : pool.running.length ≤ max 1 size
  queued : pool.queued.length ≤ 2 * max 1 size
  /-- Jobs start in the order in which they were accepted, each of them at most once. -/
  started : starts events = List.range (starts events).length ∧
    (starts events).length ≤ pool.accepted
  output : ∀ job output,
    pool.receipt job = .output output ↔ ∃ worker, .complete worker job output ∈ events
  lost : ∀ job, pool.receipt job = .lost ↔
    (∃ worker, .panic worker job ∈ events) ∨
      (∃ worker, .interrupt worker job ∈ events) ∨ .discard job ∈ events
  /-- Only an abort drops jobs. -/
  dropped : ∀ job, (∃ worker, .interrupt worker job ∈ events) ∨ .discard job ∈ events →
    .abort ∈ events
  /-- Had a job completed where it panicked, the same events would have been possible, with the
  same workers and the same receipts of all other jobs. -/
  panicked : ∀ before worker job later, events = before ++ .panic worker job :: later →
    ∀ output, ∃ other,
      (new size).exec (before ++ .complete worker job output :: later) = some other ∧
        other.workers = pool.workers ∧ other.queued = pool.queued ∧
        ∀ different ≠ job, other.receipt different = pool.receipt different
  /-- All workers stay in service: when fewer jobs run, a waiting job can start. -/
  serving : pool.phase ≠ .aborted → pool.queued ≠ [] → pool.running.length < max 1 size →
    ∃ worker job next, pool.step (.start worker job) = some next
  shutDown : pool.hasShutDown = true → ∀ job < pool.accepted,
    (∃ worker output, .complete worker job output ∈ events) ∨
      ∃ worker, .panic worker job ∈ events
  /-- After an abort no job starts, goes on or ends of its own; there is a way on from every state
  to one in which no receiver waits any more. -/
  aborted : ∀ before later, events = before ++ .abort :: later →
    (∀ event ∈ later, event.isRemoval = true) ∧
      ∃ rest final, pool.exec rest = some final ∧ final.isGone = true ∧
        ∀ job < final.accepted, final.receipt job ≠ .pending

/-- The safety of the pool, for every size and every possible sequence of events. -/
theorem safe_of_exec (run : (new size).exec events = some pool) : Safe size events pool := by
  have kept := kept_of_exec run
  constructor
  case running => exact kept.running_le
  case queued =>
    have room := kept.room
    rwa [capacity, kept.crew] at room
  case started => exact kept.starts_eq
  case output => exact kept.output_iff
  case lost => exact kept.lost_iff
  case dropped => exact fun _ => kept.abort_of_dropped
  case panicked =>
    rintro before worker job later rfl output
    obtain ⟨other, runs, alike⟩ := exists_alike_of_panic output run
    exact ⟨other, runs, alike.workers, alike.queued, fun _ => alike.receipt⟩
  case serving => exact kept.exists_start
  case shutDown => exact fun down _ => kept.ended_of_hasShutDown down
  case aborted =>
    rintro before later rfl
    have aborted : pool.phase = .aborted := kept.aborted.mpr (by simp)
    constructor
    · rw [exec_append] at run
      obtain ⟨held, -, rest⟩ := Option.bind_eq_some_iff.mp run
      obtain ⟨next, aborts, runs⟩ := Option.bind_eq_some_iff.mp rest
      simp only [step, Option.ite_none_right_eq_some, Option.some.injEq] at aborts
      obtain ⟨-, rfl⟩ := aborts
      exact isRemoval_of_aborted rfl runs
    · obtain ⟨rest, final, runs, gone⟩ := exists_isGone aborted
      refine ⟨rest, final, runs, gone, fun job accepted => ?_⟩
      have whole : (new size).exec ((before ++ .abort :: later) ++ rest) = some final := by
        rw [exec_append, run]
        exact runs
      exact (kept_of_exec whole).receipt_of_isGone gone accepted

/-- A single worker survives a panic; the job that it works on when the pool is aborted is lost, and
so is the one that still waits. -/
theorem safe_of_abort :
    ∃ pool : Pool String,
      (new 0).exec [.accept, .accept, .start 0 0, .panic 0 0, .start 0 1, .work 0 1,
        .complete 0 1 "seven", .accept, .accept, .start 0 2, .abort, .interrupt 0 2,
        .discard 3] = some pool ∧
      [0, 1, 2, 3].map pool.receipt = [.lost, .output "seven", .lost, .lost] ∧
      Safe 0 [.accept, .accept, .start 0 0, .panic 0 0, .start 0 1, .work 0 1,
        .complete 0 1 "seven", .accept, .accept, .start 0 2, .abort, .interrupt 0 2,
        .discard 3] pool :=
  ⟨_, rfl, by decide, safe_of_exec rfl⟩

end Pool

end RepoVitals.Bulk

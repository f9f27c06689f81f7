import Mathlib.Data.List.Induction
import Mathlib.Data.List.Perm.Basic
import RepoVitals.Bulk.Pool
/-!
Runs of the worker pool.

Owns:
- what a sequence of events tells: the jobs that it starts, discards and ends, in its order;
- `exec_induction`, from one event to a run;
- `Pool.Kept`, the invariant that ties a pool to the events that led to it.
-/

namespace RepoVitals.Bulk

variable {α : Type}

/-! ### What a sequence of events tells -/

namespace PoolEvent

/-- The job that an event starts. -/
def started? : PoolEvent α → Option Nat
  | .start _ job => some job
  | _ => none

/-- The queued job that an event discards. -/
def discarded? : PoolEvent α → Option Nat
  | .discard job => some job
  | _ => none

/-- The job that an event ends, and how. -/
def ended? : PoolEvent α → Option (Nat × Ending α)
  | .complete _ job output => some (job, .completed output)
  | .panic _ job => some (job, .panicked)
  | .interrupt _ job | .discard job => some (job, .dropped)
  | _ => none

/-- What an aborted pool lets happen: its workers end, and then its queue. -/
def isRemoval : PoolEvent α → Bool
  | .leave _ | .interrupt _ _ | .discard _ => true
  | _ => false

/-- The jobs that a sequence of events starts, in its order. -/
def starts (events : List (PoolEvent α)) : List Nat := events.filterMap started?

/-- The jobs that a sequence of events discards. -/
def discards (events : List (PoolEvent α)) : List Nat := events.filterMap discarded?

/-- The jobs that a sequence of events ends. -/
def endings (events : List (PoolEvent α)) : List (Nat × Ending α) := events.filterMap ended?

private theorem filterMap_concat {β γ : Type} (pick : β → Option γ) (items : List β) (item : β) :
    (items ++ [item]).filterMap pick = items.filterMap pick ++ (pick item).toList := by
  rw [List.filterMap_append]
  cases picked : pick item <;> simp [picked]

@[simp] theorem starts_concat (events : List (PoolEvent α)) (event : PoolEvent α) :
    starts (events ++ [event]) = starts events ++ event.started?.toList :=
  filterMap_concat _ _ _

@[simp] theorem discards_concat (events : List (PoolEvent α)) (event : PoolEvent α) :
    discards (events ++ [event]) = discards events ++ event.discarded?.toList :=
  filterMap_concat _ _ _

@[simp] theorem endings_concat (events : List (PoolEvent α)) (event : PoolEvent α) :
    endings (events ++ [event]) = endings events ++ event.ended?.toList :=
  filterMap_concat _ _ _

theorem ended?_completed {event : PoolEvent α} {job : Nat} {output : α} :
    event.ended? = some (job, .completed output) ↔
      ∃ worker, event = .complete worker job output := by
  cases event <;> simp [ended?, eq_comm]

theorem ended?_panicked {event : PoolEvent α} {job : Nat} :
    event.ended? = some (job, .panicked) ↔ ∃ worker, event = .panic worker job := by
  cases event <;> simp [ended?]

theorem ended?_dropped {event : PoolEvent α} {job : Nat} :
    event.ended? = some (job, .dropped) ↔
      (∃ worker, event = .interrupt worker job) ∨ event = .discard job := by
  cases event <;> simp [ended?]

end PoolEvent

namespace Pool

open PoolEvent

variable {pool after : Pool α} {event : PoolEvent α} {events : List (PoolEvent α)} {size : Nat}

theorem exec_append (pool : Pool α) (first second : List (PoolEvent α)) :
    pool.exec (first ++ second) = (pool.exec first).bind (·.exec second) := by
  induction first generalizing pool with
  | nil => rfl
  | cons event rest ih =>
    simp only [List.cons_append, exec, Option.bind_assoc]
    exact congrArg _ (funext fun next => ih next)

theorem exec_concat (pool : Pool α) (events : List (PoolEvent α)) (event : PoolEvent α) :
    pool.exec (events ++ [event]) = (pool.exec events).bind (·.step event) := by
  rw [exec_append]
  exact congrArg _ (funext fun next => by simp [exec])

/-- What holds at first and is preserved by every event holds after every run. -/
theorem exec_induction {property : List (PoolEvent α) → Pool α → Prop} {start : Pool α}
    (first : property [] start)
    (next : ∀ events event pool after, property events pool → pool.step event = some after →
      property (events ++ [event]) after)
    (run : start.exec events = some pool) : property events pool := by
  induction events using List.reverseRecOn generalizing pool with
  | nil =>
    cases run
    exact first
  | append_singleton events event ih =>
    rw [exec_concat] at run
    obtain ⟨before, runs, steps⟩ := Option.bind_eq_some_iff.mp run
    exact next events event before pool (ih runs) steps

/-! ### The invariant -/

/-- What is assembled from the entries of a list, when one of them is replaced. -/
private theorem flatMap_set_perm {β γ : Type} (held : β → List γ) {items : List β} {old new : β}
    {position : Nat} (found : items[position]? = some old) :
    (held new ++ items.flatMap held).Perm (held old ++ (items.set position new).flatMap held) := by
  induction items generalizing position with
  | nil => simp at found
  | cons item items ih =>
    cases position with
    | zero =>
      cases Option.some.inj found
      simpa only [List.set_cons_zero, List.flatMap_cons] using List.perm_append_comm_assoc _ _ _
    | succ position =>
      have inner := @ih position (by simpa using found)
      simp only [List.set_cons_succ, List.flatMap_cons]
      exact ((List.perm_append_comm_assoc _ _ _).trans (inner.append_left _)).trans
        (List.perm_append_comm_assoc _ _ _)

/-- A pool and the events that led to it.  Started jobs are held or have ended; the others wait in
the order in which they were accepted, until an abort discards them in that order. -/
structure Kept (size : Nat) (events : List (PoolEvent α)) (pool : Pool α) : Prop where
  crew : pool.workers.length = max 1 size
  room : pool.queued.length ≤ pool.capacity
  order : starts events ++ (discards events ++ pool.queued) =
    List.range pool.accepted
  placed : (pool.running ++ pool.ended.map Prod.fst).Perm
    (starts events ++ discards events)
  endings : pool.ended = endings events
  aborted : pool.phase = .aborted ↔ .abort ∈ events
  calm : pool.phase ≠ .aborted →
    discards events = [] ∧ ∀ job, (job, .dropped) ∉ pool.ended
  serving : .gone ∈ pool.workers → pool.isOver = true

theorem kept_new (size : Nat) : Kept size [] (new size : Pool α) where
  crew := List.length_replicate
  room := Nat.zero_le _
  order := rfl
  placed := by
    have idle (count : Nat) : (List.replicate count Worker.idle).flatMap Worker.held = [] := by
      simp [Worker.held]
    simp [new, running, idle, starts, discards]
  endings := rfl
  aborted := by simp [new]
  calm _ := by simp [new, discards]
  serving isGone := by
    have := List.eq_of_mem_replicate isGone
    contradiction

/-- A worker turns to something else. -/
theorem running_set {worker : Nat} {old : Worker} (new : Worker)
    (found : pool.workers[worker]? = some old) :
    (new.held ++ pool.running).Perm
      (old.held ++ (pool.workers.set worker new).flatMap Worker.held) :=
  flatMap_set_perm Worker.held found

theorem gone_of_set {workers : List Worker} {worker : Nat} {new : Worker} (other : new ≠ .gone)
    (isGone : .gone ∈ workers.set worker new) : .gone ∈ workers :=
  (List.mem_or_eq_of_mem_set isGone).resolve_right (Ne.symm other)

namespace Kept

theorem accept (kept : Kept size events pool) (steps : pool.step .accept = some after) :
    Kept size (events ++ [.accept]) after := by
  simp only [step, Option.ite_none_right_eq_some, Option.some.injEq, hasRoom, Bool.and_eq_true,
    decide_eq_true_eq] at steps
  obtain ⟨⟨working, room⟩, rfl⟩ := steps
  constructor
  case crew => exact kept.crew
  case room =>
    rw [List.length_append]
    exact room
  case order =>
    rw [List.range_succ, ← kept.order]
    simp [started?, discarded?]
  case placed => simpa [started?, discarded?, running] using kept.placed
  case endings => simpa [ended?] using kept.endings
  case aborted => simpa using kept.aborted
  case calm => simpa [discarded?] using kept.calm
  case serving =>
    intro isGone
    have spent := kept.serving isGone
    simp [isOver, working] at spent

theorem start {worker job : Nat} (kept : Kept size events pool)
    (steps : pool.step (.start worker job) = some after) :
    Kept size (events ++ [.start worker job]) after := by
  simp only [step, Option.ite_none_right_eq_some, Option.some.injEq] at steps
  obtain ⟨⟨active, isIdle, oldest⟩, rfl⟩ := steps
  obtain ⟨rest, queued⟩ := List.head?_eq_some_iff.mp oldest
  have none : discards events = [] := (kept.calm active).1
  constructor
  case crew => rw [List.length_set, kept.crew]
  case room =>
    have room := kept.room
    simp only [capacity, queued, List.length_cons, List.tail_cons, List.length_set] at room ⊢
    omega
  case order => simpa [started?, discarded?, none, queued] using kept.order
  case placed =>
    have turn := running_set (.busy job) isIdle
    have placed := kept.placed
    simp only [Worker.held, List.nil_append, List.singleton_append] at turn
    simp only [starts_concat, discards_concat, started?, discarded?, none, Option.toList,
      List.append_nil, running] at placed ⊢
    calc (((pool.workers.set worker (.busy job)).flatMap Worker.held) ++
          pool.ended.map Prod.fst).Perm (job :: (pool.running ++ pool.ended.map Prod.fst)) :=
            turn.symm.append_right _
      _ |>.Perm (job :: starts events) := placed.cons _
      _ |>.Perm _ := (List.perm_append_singleton _ _).symm
  case endings => simpa [ended?] using kept.endings
  case aborted => simpa using kept.aborted
  case calm => simpa [discarded?] using kept.calm
  case serving =>
    intro isGone
    have spent := kept.serving (gone_of_set (by simp) isGone)
    simp [isOver, active, queued] at spent

/-- A worker lets go of what it holds. -/
theorem turn {worker : Nat} {old new : Worker} (kept : Kept size events pool)
    (found : pool.workers[worker]? = some old) (empty : new.held = [])
    (notStart : event.started? = none) (notDiscard : event.discarded? = none)
    (notAbort : event ≠ .abort) (released : event.ended?.toList.map Prod.fst = old.held)
    (dropping : ∀ job, event.ended? = some (job, .dropped) → pool.phase = .aborted)
    (leaving : new = .gone → pool.isOver = true) :
    Kept size (events ++ [event]) { pool with
      workers := pool.workers.set worker new
      ended := pool.ended ++ event.ended?.toList } := by
  constructor
  case crew => rw [List.length_set, kept.crew]
  case room => simpa [capacity] using kept.room
  case order => simpa [notStart, notDiscard] using kept.order
  case placed =>
    have turn := running_set new found
    rw [empty, List.nil_append, ← released] at turn
    simp only [starts_concat, discards_concat, notStart, notDiscard, Option.toList_none,
      List.append_nil, List.map_append, running]
    refine .trans ?_ ((turn.append_right _).symm.trans kept.placed)
    rw [← List.append_assoc, List.append_assoc (event.ended?.toList.map Prod.fst)]
    exact List.perm_append_comm
  case endings => rw [endings_concat, ← kept.endings]
  case aborted => simpa [Ne.symm notAbort] using kept.aborted
  case calm =>
    intro active
    obtain ⟨none, undropped⟩ := kept.calm active
    refine ⟨by simpa [notDiscard] using none, fun job isDropped => ?_⟩
    rcases List.mem_append.mp isDropped with old | new
    · exact undropped job old
    · exact active (dropping job (by simpa using new))
  case serving =>
    intro isGone
    by_cases leaves : new = .gone
    · exact leaving leaves
    · exact kept.serving (gone_of_set leaves isGone)

/-- Nothing is started, ended or discarded, but the phase may change. -/
theorem silent (kept : Kept size events pool) (phase : Phase)
    (notStart : event.started? = none) (notDiscard : event.discarded? = none)
    (notEnd : event.ended? = none) (aborted : phase = .aborted ↔ .abort ∈ events ++ [event])
    (calm : phase ≠ .aborted → pool.phase ≠ .aborted)
    (serving : .gone ∈ pool.workers → { pool with phase := phase }.isOver = true) :
    Kept size (events ++ [event]) { pool with phase := phase } where
  crew := kept.crew
  room := kept.room
  order := by simpa [notStart, notDiscard] using kept.order
  placed := by simpa [notStart, notDiscard, running] using kept.placed
  endings := by simpa [notEnd] using kept.endings
  aborted := aborted
  calm active := by simpa [notDiscard] using kept.calm (calm active)
  serving := serving

theorem discard {job : Nat} (kept : Kept size events pool)
    (steps : pool.step (.discard job) = some after) :
    Kept size (events ++ [.discard job]) after := by
  simp only [step, Option.ite_none_right_eq_some, Option.some.injEq] at steps
  obtain ⟨⟨aborted, -, oldest⟩, rfl⟩ := steps
  obtain ⟨rest, queued⟩ := List.head?_eq_some_iff.mp oldest
  constructor
  case crew => exact kept.crew
  case room =>
    have room := kept.room
    simp only [capacity, queued, List.length_cons, endJob, List.tail_cons] at room ⊢
    omega
  case order =>
    simpa [started?, discarded?, endJob, queued] using kept.order
  case placed =>
    simp only [starts_concat, discards_concat, started?, discarded?, Option.toList,
      List.append_nil, endJob, List.map_append, running, List.map_cons, List.map_nil,
      ← List.append_assoc]
    exact kept.placed.append_right _
  case endings => rw [endings_concat, endJob, kept.endings]; rfl
  case aborted => simpa [endJob] using kept.aborted
  case calm => exact fun active => absurd aborted active
  case serving => simp [isOver, endJob, aborted]

/-- Every event keeps the invariant. -/
theorem step (kept : Kept size events pool) (steps : pool.step event = some after) :
    Kept size (events ++ [event]) after := by
  cases event with
  | accept => exact kept.accept steps
  | start worker job => exact kept.start steps
  | discard job => exact kept.discard steps
  | work worker job =>
    simp only [Pool.step, Option.ite_none_right_eq_some, Option.some.injEq] at steps
    obtain ⟨-, rfl⟩ := steps
    exact kept.silent _ rfl rfl rfl (by simpa using kept.aborted) id kept.serving
  | complete worker job output =>
    simp only [Pool.step, Option.ite_none_right_eq_some, Option.some.injEq] at steps
    obtain ⟨⟨-, held⟩, rfl⟩ := steps
    exact kept.turn held rfl rfl rfl nofun rfl nofun nofun
  | panic worker job =>
    simp only [Pool.step, Option.ite_none_right_eq_some, Option.some.injEq] at steps
    obtain ⟨⟨-, held⟩, rfl⟩ := steps
    exact kept.turn held rfl rfl rfl nofun rfl nofun nofun
  | leave worker =>
    simp only [Pool.step, Option.ite_none_right_eq_some, Option.some.injEq] at steps
    obtain ⟨⟨spent, isIdle⟩, rfl⟩ := steps
    have turned : Kept size (events ++ [.leave worker]) { pool with
        workers := pool.workers.set worker .gone
        ended := pool.ended ++ [] } :=
      kept.turn isIdle rfl rfl rfl nofun rfl nofun fun _ => spent
    rwa [List.append_nil] at turned
  | close =>
    simp only [Pool.step, Option.ite_none_right_eq_some, Option.some.injEq] at steps
    obtain ⟨working, rfl⟩ := steps
    have notAborted : .abort ∉ events := fun isThere => by
      rw [kept.aborted.mpr isThere] at working
      cases working
    refine kept.silent .closed rfl rfl rfl (by simp [notAborted]) (by simp [working]) ?_
    intro isGone
    have spent := kept.serving isGone
    simp [isOver, working] at spent
  | abort =>
    simp only [Pool.step, Option.ite_none_right_eq_some, Option.some.injEq] at steps
    obtain ⟨working, rfl⟩ := steps
    exact kept.silent .aborted rfl rfl rfl (by simp) (by simp) (by simp [isOver])
  | interrupt worker job =>
    simp only [Pool.step, Option.ite_none_right_eq_some, Option.some.injEq] at steps
    obtain ⟨⟨aborted, held⟩, rfl⟩ := steps
    exact kept.turn held rfl rfl rfl nofun rfl (fun _ _ => aborted) fun _ => by
      simp [isOver, aborted]

end Kept

theorem kept_of_exec (run : (new size).exec events = some pool) : Kept size events pool :=
  exec_induction (kept_new size) (fun _ _ _ _ kept steps => kept.step steps) run

end Pool

end RepoVitals.Bulk

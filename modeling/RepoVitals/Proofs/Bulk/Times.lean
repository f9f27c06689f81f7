import Mathlib.Data.List.Nodup
import Mathlib.Data.List.Pairwise
import RepoVitals.Proofs.Bulk.Dispatch
/-!
Times: when calls start and land.

Owns:
- `Logged.Timed`: calls start before the deadline and land when they are due, by the deadline;
- `Reaches.overdue`: a call that is due later shares no document with a call that landed.
-/

namespace RepoVitals.Bulk

variable {σ : Type}

namespace Logged

variable {sink : Sink σ} {origin : Delivery σ} {before after logged : Logged σ}

/-- Calls start before the deadline and land when they are due, by the deadline. -/
structure Timed (origin : Delivery σ) (logged : Logged σ) : Prop where
  starts : ∀ start ∈ logged.starts, start.time < origin.writing.deadline
  aloft : ∀ call ∈ logged.airborne, ∃ start ∈ logged.starts,
    start.part = call.part ∧ start.chunk = call.chunk ∧ start.due = call.due
  arrivals : ∀ arrival ∈ logged.arrivals, arrival.time ≤ origin.writing.deadline ∧
    ∃ start ∈ logged.starts,
      start.part = arrival.part ∧ start.chunk = arrival.chunk ∧ start.due = arrival.time

theorem clock_le_of_aloft (sound : logged.Sound origin) {call : Airborne}
    (member : call ∈ logged.airborne) : logged.writing.clock ≤ logged.writing.deadline := by
  refine sound.clock.resolve_right fun past => ?_
  rw [past.2] at member
  cases member

/-- From the deadline on only a call that is due just then can land. -/
theorem lt_due_of_late (sound : logged.Sound origin)
    (late : logged.writing.deadline ≤ logged.writing.clock) {call : Airborne}
    (member : call ∈ logged.airborne) (later : call.due ≠ logged.writing.deadline) :
    logged.writing.clock < call.due := by
  have inTime := clock_le_of_aloft sound member
  refine Nat.lt_of_le_of_ne (sound.due call member) fun now => later ?_
  exact now.symm.trans (Nat.le_antisymm inTime late)

theorem Moves.timed (moves : Moves sink before after) (sound : before.Sound origin)
    (timed : before.Timed origin) : after.Timed origin := by
  have kept : ∀ position,
      ∀ call ∈ before.airborne.filter (fun other => other.part ≠ position),
        ∃ start ∈ before.starts,
          start.part = call.part ∧ start.chunk = call.chunk ∧ start.due = call.due :=
    fun position call member => timed.aloft call (List.mem_filter.mp member).1
  cases moves with
  | shift position part next found shift => exact ⟨timed.starts, timed.aloft, timed.arrivals⟩
  | dispatch position part chunk flight state found ready early taken flies =>
    refine ⟨fun start isStart => ?_, fun call member => ?_, fun arrival isArrival => ?_⟩
    · rcases List.mem_append.mp isStart with old | new
      · exact timed.starts start old
      · cases List.mem_singleton.mp new
        exact sound.deadline ▸ early
    · rcases List.mem_append.mp member with old | new
      · obtain ⟨start, isStart, same⟩ := timed.aloft call old
        exact ⟨start, List.mem_append_left _ isStart, same⟩
      · cases List.mem_singleton.mp new
        exact ⟨_, List.mem_append_right _ (List.mem_singleton.mpr rfl), rfl, rfl, rfl⟩
    · obtain ⟨inTime, start, isStart, same⟩ := timed.arrivals arrival isArrival
      exact ⟨inTime, start, List.mem_append_left _ isStart, same⟩
  | land call part chunk landing state aloft found sending due lands =>
    refine ⟨timed.starts, kept call.part, fun arrival isArrival => ?_⟩
    rcases List.mem_append.mp isArrival with old | new
    · exact timed.arrivals arrival old
    · cases List.mem_singleton.mp new
      obtain ⟨start, isStart, samePart, sameChunk, sameDue⟩ := timed.aloft call aloft
      -- Time has not passed a call by, and no call lands early.
      have onTime : call.due = before.writing.clock :=
        Nat.le_antisymm due (sound.due call aloft)
      exact ⟨sound.deadline ▸ clock_le_of_aloft sound aloft, start, isStart, samePart, sameChunk,
        sameDue.trans onTime⟩
  | cut position part chunk found sending late =>
    exact ⟨timed.starts, kept position, timed.arrivals⟩
  | pass nanoseconds waits may => exact ⟨timed.starts, timed.aloft, timed.arrivals⟩
  | conclude conclusion unconcluded now => exact ⟨timed.starts, timed.aloft, timed.arrivals⟩

theorem timed_of_course (fresh : origin.Fresh) (course : Course sink (new origin) logged) :
    logged.Timed origin := by
  induction course with
  | refl => exact ⟨nofun, by simp [new, fresh.grounded], nofun⟩
  | tail course moves inductionHypothesis =>
    exact moves.timed (sound_of_course fresh course) inductionHypothesis

/-- A document tells which call took it. -/
theorem start_eq_of_id (once : ((logged.starts.flatMap Start.chunk).map Entry.id).Nodup)
    {first second : Start} (isFirst : first ∈ logged.starts) (isSecond : second ∈ logged.starts)
    {id : String} (ofFirst : id ∈ first.chunk.map Entry.id)
    (ofSecond : id ∈ second.chunk.map Entry.id) : first = second := by
  rw [List.map_flatMap, List.nodup_flatMap] at once
  have apart : Std.Symm (Function.onFun List.Disjoint fun start : Start =>
      start.chunk.map Entry.id) := ⟨fun _ _ disjoint _ ofOne ofOther => disjoint ofOther ofOne⟩
  by_contra different
  exact once.2.forall isFirst isSecond different ofFirst ofSecond

end Logged

namespace Writer

variable {writer : Writer σ} {options : WriteOptions} {batch : Batch} {index : String} {state : σ}
  {logged : Logged σ}

theorem Reaches.timed (reached : writer.Reaches options batch index state logged) :
    (∀ start ∈ logged.starts, start.time < options.timeout) ∧
      ∀ arrival ∈ logged.arrivals, arrival.time ≤ options.timeout ∧
        ∃ start ∈ logged.starts,
          start.part = arrival.part ∧ start.chunk = arrival.chunk ∧ start.due = arrival.time := by
  obtain ⟨ensured, -, course⟩ := reached.course
  have timed :=
    Logged.timed_of_course (writer.fresh_delivery options batch index ensured) course
  exact ⟨timed.starts, timed.arrivals⟩

/-- A call that is due after the deadline shares no document with a call that landed. -/
theorem Reaches.overdue (reached : writer.Reaches options batch index state logged) {start : Start}
    (isStart : start ∈ logged.starts) (late : options.timeout < start.due) {arrival : Arrival}
    (isArrival : arrival ∈ logged.arrivals) {document : Entry} (member : document ∈ start.chunk) :
    document.id ∉ arrival.chunk.map Entry.id := by
  intro landed
  obtain ⟨inTime, other, isOther, -, sameChunk, sameDue⟩ := reached.timed.2 arrival isArrival
  have same := Logged.start_eq_of_id reached.nodup_starts isStart isOther
    (List.mem_map_of_mem member) (sameChunk ▸ landed)
  subst same
  omega

end Writer

end RepoVitals.Bulk

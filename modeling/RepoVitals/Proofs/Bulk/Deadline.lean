import RepoVitals.Proofs.Bulk.Steady
import RepoVitals.Proofs.Bulk.Storing
/-!
Deadlines: what a write does when its time is up.

Owns:
- the rest of a course from the deadline on, in which nothing starts, calls in flight can be cut
  off, and nothing that is due later lands;
- `Logged.Punctual`: what it is for a delivery to keep to its deadline;
- `nothing_lands_late`.

A call that is due exactly at the deadline may land at it or be cut off.
-/

namespace RepoVitals.Bulk

open Sink (Memory)

variable {σ : Type}

/-- Parts that waited for a call still do, or the deadline has cut the call off. -/
def Writing.CutOff (before after : Writing) : Prop :=
  ∀ (position : Nat) (part : Partition) (chunk : List Entry),
    before.parts[position]? = some part → part.progress = .sending chunk →
    after.parts[position]? = some part ∨
      after.parts[position]? = some
        { part with progress := .abandoned (chunk.length + part.unsent.length) }

theorem Writing.CutOff.refl (writing : Writing) : writing.CutOff writing :=
  fun _ _ _ found _ => .inl found

theorem Writing.cutOff_put {writing : Writing} {position : Nat} {part next : Partition}
    (found : writing.parts[position]? = some part)
    (isCut : ∀ chunk, part.progress = .sending chunk →
      next = { part with progress := .abandoned (chunk.length + part.unsent.length) }) :
    writing.CutOff (writing.put position next) := by
  intro other otherPart chunk isThere sending
  rw [getElem?_put found]
  split
  · rename_i here
    rw [here, found] at isThere
    cases isThere
    exact .inr (congrArg some (isCut chunk sending))
  · exact .inl isThere

namespace Logged

variable {sink : Sink σ} {origin : Delivery σ} {before after logged : Logged σ}

/-! ### From the deadline on -/

/-- From the deadline on no call takes off, and the deadline stays. -/
theorem Moves.late (moves : Moves sink before after)
    (late : before.writing.deadline ≤ before.writing.clock) :
    after.writing.deadline ≤ after.writing.clock ∧ after.starts = before.starts ∧
      ∀ call ∈ after.airborne, call ∈ before.airborne := by
  cases moves with
  | shift position part next found shift => exact ⟨late, rfl, fun _ => id⟩
  | dispatch position part chunk flight state found ready early taken flies =>
    exact absurd early (Nat.not_lt_of_le late)
  | land call part chunk landing state aloft found sending due lands =>
    exact ⟨late, rfl, fun call member => (List.mem_filter.mp member).1⟩
  | cut position part chunk found sending stillLate =>
    exact ⟨late, rfl, fun call member => (List.mem_filter.mp member).1⟩
  | pass nanoseconds waits may => exact ⟨Nat.le_add_right_of_le late, rfl, fun _ => id⟩
  | conclude conclusion unconcluded now => exact ⟨late, rfl, fun _ => id⟩

/-- From the deadline on nothing lands that is due later. -/
theorem Moves.landsNothing (moves : Moves sink before after) (sound : before.Sound origin)
    (late : before.writing.deadline ≤ before.writing.clock)
    (later : ∀ call ∈ before.airborne, call.due ≠ before.writing.deadline) :
    after.arrivals = before.arrivals ∧ after.sink = before.sink ∧
      before.writing.CutOff after.writing := by
  cases moves with
  | shift position part next found shift =>
    exact ⟨rfl, rfl, Writing.cutOff_put found fun chunk sending =>
      absurd sending (shift.not_sending chunk).1⟩
  | dispatch position part chunk flight state found ready early taken flies =>
    exact absurd early (Nat.not_lt_of_le late)
  | land call part chunk landing state aloft found sending due lands =>
    exact absurd due (Nat.not_le_of_lt (lt_due_of_late sound late aloft (later call aloft)))
  | cut position part chunk found sending stillLate =>
    refine ⟨rfl, rfl, Writing.cutOff_put found fun other isSending => ?_⟩
    rw [sending] at isSending
    cases isSending
    rfl
  | pass nanoseconds waits may => exact ⟨rfl, rfl, .refl _⟩
  | conclude conclusion unconcluded now => exact ⟨rfl, rfl, .refl _⟩

theorem late_of_course (course : Course sink before after)
    (late : before.writing.deadline ≤ before.writing.clock) :
    after.writing.deadline ≤ after.writing.clock ∧ after.starts = before.starts ∧
      ∀ call ∈ after.airborne, call ∈ before.airborne := by
  induction course with
  | refl => exact ⟨late, rfl, fun _ => id⟩
  | tail _ moves inductionHypothesis =>
    obtain ⟨stillLate, sameStarts, noMore⟩ := inductionHypothesis
    obtain ⟨afterLate, afterStarts, afterNoMore⟩ := moves.late stillLate
    exact ⟨afterLate, afterStarts.trans sameStarts, fun call member =>
      noMore call (afterNoMore call member)⟩

theorem landsNothing_of_course (fresh : origin.Fresh) (sound : before.Sound origin)
    (course : Course sink before after) (late : before.writing.deadline ≤ before.writing.clock)
    (later : ∀ call ∈ before.airborne, call.due ≠ before.writing.deadline) :
    after.arrivals = before.arrivals ∧ after.sink = before.sink ∧
      before.writing.CutOff after.writing := by
  induction course with
  | refl => exact ⟨rfl, rfl, .refl _⟩
  | tail course moves inductionHypothesis =>
    rename_i middle final
    obtain ⟨sameArrivals, sameSink, cutOff⟩ := inductionHypothesis
    obtain ⟨stillLate, -, noMore⟩ := late_of_course course late
    obtain ⟨afterArrivals, afterSink, afterCutOff⟩ :=
      moves.landsNothing (sound.course fresh course) stillLate fun call member =>
        (frame_of_course course).deadline ▸ later call (noMore call member)
    refine ⟨afterArrivals.trans sameArrivals, afterSink.trans sameSink, ?_⟩
    intro position part chunk found sending
    rcases cutOff position part chunk found sending with same | isCut
    · exact afterCutOff position part chunk same sending
    · exact .inr (moves.settled isCut rfl)

/-- A call in flight is cut off without a word to the sink, from the deadline on. -/
theorem step_cut (sink : Sink σ) {position : Nat} {part : Partition} {chunk : List Entry}
    (found : logged.writing.parts[position]? = some part)
    (sending : part.progress = .sending chunk) :
    logged.step sink (.cut position) =
      if logged.writing.deadline ≤ logged.writing.clock then
        some { logged with
          writing := logged.writing.put position
            { part with progress := .abandoned (chunk.length + part.unsent.length) }
          airborne := logged.airborne.filter (fun call => call.part ≠ position) }
      else none := by
  rw [step, Delivery.step_cut sink found sending]
  split
  · simp only [Option.map_some, Delivery.startsBy_of_length_le, List.length_filter_le,
      Delivery.arrivalsBy, List.append_nil]
  · rfl

/-- A part that is settled makes no further call, and none of its calls lands any more. -/
theorem calls_of_settled (course : Course sink before after) {position : Nat} {part : Partition}
    (found : before.writing.parts[position]? = some part) (settled : part.isSettled = true) :
    after.starts.filter (fun start => start.part = position) =
        before.starts.filter (fun start => start.part = position) ∧
      after.arrivals.filter (fun arrival => arrival.part = position) =
        before.arrivals.filter (fun arrival => arrival.part = position) := by
  induction course with
  | refl => exact ⟨rfl, rfl⟩
  | tail course moves inductionHypothesis =>
    rw [← inductionHypothesis.1, ← inductionHypothesis.2]
    have still := settled_of_course course found settled
    -- Calls take off and land only for parts that are not settled.
    cases moves with
    | dispatch other busy chunk flight state isThere ready early taken flies =>
      have elsewhere : other ≠ position := by
        intro here
        rw [here, still] at isThere
        cases isThere
        simp [Partition.isSettled, ready] at settled
      simp only [List.filter_append, List.filter_cons, elsewhere, decide_false, Bool.false_eq_true,
        ↓reduceIte, List.filter_nil, List.append_nil, and_self]
    | land call busy chunk landing state aloft isThere sending due lands =>
      have elsewhere : call.part ≠ position := by
        intro here
        rw [here, still] at isThere
        cases isThere
        simp [Partition.isSettled, sending] at settled
      simp only [List.filter_append, List.filter_cons, elsewhere, decide_false, Bool.false_eq_true,
        ↓reduceIte, List.filter_nil, List.append_nil, and_self]
    | _ => exact ⟨rfl, rfl⟩

/-! ### Keeping to the deadline -/

/-- A delivery keeps to its deadline. -/
structure Punctual (sink : Sink σ) (deadline : Nat) (logged : Logged σ) : Prop where
  /-- No call starts at the deadline or after it. -/
  starts : ∀ start ∈ logged.starts, start.time < deadline
  /-- Calls land when they are due, by the deadline. -/
  arrivals : ∀ arrival ∈ logged.arrivals, arrival.time ≤ deadline ∧
    ∃ start ∈ logged.starts,
      start.part = arrival.part ∧ start.chunk = arrival.chunk ∧ start.due = arrival.time
  /-- A call that is due after the deadline never lands. -/
  overdue : ∀ start ∈ logged.starts, deadline < start.due →
    ∀ arrival ∈ logged.arrivals, arrival.chunk ≠ start.chunk
  /-- Whoever waits for the write does not wait longer than the deadline, at which the verdict can
  be given at once. -/
  waiting : logged.writing.conclusion = none → logged.writing.clock ≤ deadline ∧
    (logged.writing.clock = deadline → (logged.step sink .conclude).isSome)
  /-- A call in flight can be cut off at the deadline, and not before.  Its part gives up the
  documents of the call and those that are left, and the sink never hears of it. -/
  cut : ∀ call ∈ logged.airborne, ∃ part,
    logged.writing.parts[call.part]? = some part ∧ part.progress = .sending call.chunk ∧
    logged.step sink (.cut call.part) =
      if deadline ≤ logged.writing.clock then
        some { logged with
          writing := logged.writing.put call.part
            { part with progress := .abandoned (call.chunk.length + part.unsent.length) }
          airborne := logged.airborne.filter (fun other => other.part ≠ call.part) }
      else none
  /-- From the deadline on no call starts.  If none is due exactly then, none lands and the sink
  sees nothing more: parts that wait for a call are cut off. -/
  rest : deadline ≤ logged.writing.clock → ∀ choices later, logged.exec sink choices = some later →
    later.starts = logged.starts ∧
    ((∀ call ∈ logged.airborne, call.due ≠ deadline) →
      later.arrivals = logged.arrivals ∧ later.sink = logged.sink ∧
        logged.writing.CutOff later.writing)
  /-- Behind the deadline no part waits for a call. -/
  past : deadline < logged.writing.clock →
    ∀ part ∈ logged.writing.parts, ∀ chunk, part.progress ≠ .sending chunk
  /-- A part that was cut off stays so: it makes no further call, and none of its calls lands any
  more.  The same goes for one that is through. -/
  settled : ∀ choices later position part, logged.exec sink choices = some later →
    logged.writing.parts[position]? = some part → part.isSettled = true →
    later.writing.parts[position]? = some part ∧
      later.starts.filter (fun start => start.part = position) =
        logged.starts.filter (fun start => start.part = position) ∧
      later.arrivals.filter (fun arrival => arrival.part = position) =
        logged.arrivals.filter (fun arrival => arrival.part = position)

end Logged

namespace Writer

variable {writer : Writer σ} {options : WriteOptions} {batch : Batch} {index : String} {state : σ}
  {logged : Logged σ}

theorem Reaches.punctual (reached : writer.Reaches options batch index state logged) :
    logged.Punctual writer.sink options.timeout := by
  obtain ⟨ensured, -, course⟩ := reached.course
  have fresh := writer.fresh_delivery options batch index ensured
  have sound := Logged.sound_of_course fresh course
  have deadline : logged.writing.deadline = options.timeout := sound.deadline
  rw [← deadline]
  exact {
    starts := deadline ▸ reached.timed.1
    arrivals := deadline ▸ reached.timed.2
    overdue := by
      intro start isStart late arrival isArrival same
      obtain ⟨document, member⟩ := List.exists_mem_of_ne_nil _ (reached.each_start isStart).2.1
      exact reached.overdue isStart (deadline ▸ late) isArrival member
        (same ▸ List.mem_map_of_mem member)
    waiting := fun unconcluded => ⟨Logged.clock_le_deadline sound unconcluded, fun here => by
      obtain ⟨conclusion, stepped⟩ := Delivery.step_conclude writer.sink unconcluded
        (.inl (decide_eq_true (Nat.le_of_eq here.symm)))
      rw [Logged.step, stepped]
      rfl⟩
    cut := fun call aloft => by
      obtain ⟨part, found, sending⟩ := sound.aloft call aloft
      exact ⟨part, found, sending, Logged.step_cut writer.sink found sending⟩
    rest := fun late choices later executed =>
      ⟨(Logged.late_of_course (Logged.course_of_exec executed) late).2.1, fun notNow =>
        Logged.landsNothing_of_course fresh sound (Logged.course_of_exec executed) late notNow⟩
    past := by
      intro behind part member chunk sending
      obtain ⟨position, inside, rfl⟩ := List.mem_iff_getElem.mp member
      obtain ⟨call, aloft, -⟩ :=
        sound.awaited position _ chunk (List.getElem?_eq_getElem inside) sending
      exact absurd behind (Nat.not_lt_of_le (Logged.clock_le_of_aloft sound aloft))
    settled := fun choices later position part executed found settled =>
      ⟨Logged.settled_of_course (Logged.course_of_exec executed) found settled,
        Logged.calls_of_settled (Logged.course_of_exec executed) found settled⟩ }

/-- **Nothing lands after the clock has run out.**  Wherever a write can get to, it has kept to its
deadline, and it returns by then.  The store in memory, whatever the delays of its calls, holds just
the accepted documents of the calls in its log, in order: to the log the write has added some of its
calls, each of them whole, and none that was due after the deadline. -/
theorem nothing_lands_late (writer : Writer σ) (options : WriteOptions) (batch : Batch)
    (index : String) (state : σ) :
    (∀ logged, writer.Reaches options batch index state logged →
      logged.Punctual writer.sink options.timeout) ∧
    (∀ ensured, batch.documents ≠ [] →
      Index.ensure writer.sink writer.settings index state = (.ok (), ensured) →
      ∃ logged, writer.Reaches options batch index state logged ∧
        writer.write options batch index state =
          (outcomeOf options logged.toDelivery, logged.sink) ∧
        logged.writing.clock ≤ options.timeout ∧ logged.writing.conclusion ≠ none) ∧
    (∀ delay settings poolSize store cargos logged, store.Remembers cargos →
      Reaches ⟨Sink.paced delay, settings, poolSize⟩ options batch index store logged →
      logged.sink.Remembers (cargos ++ logged.cargos) ∧
      (∀ cargo ∈ logged.cargos,
        cargo.index = index ∧ ∃ start ∈ logged.starts, start.chunk = cargo.documents) ∧
      ∀ start ∈ logged.starts, options.timeout < start.due → ∀ document ∈ start.chunk,
        (∀ cargo ∈ logged.cargos, document.id ∉ cargo.call.ids) ∧
          Sink.bodyUnder? logged.sink.documents index document.id =
            Sink.bodyUnder? store.documents index document.id) := by
  refine ⟨fun logged reached => reached.punctual, fun ensured holds ensures => ?_, ?_⟩
  · obtain ⟨logged, reached, returned, inTime, concluded, -⟩ :=
      writer.write_of_ensured options batch index state ensured holds ensures
        (fun _ _ _ _ _ _ _ _ => trivial) trivial
    exact ⟨logged, reached, returned, inTime, concluded⟩
  intro delay settings poolSize store cargos logged remembers reached
  have adds := reached.adds
  refine ⟨remembers.adds adds, fun cargo member => ?_,
    fun start isStart late document isThere => ?_⟩
  · obtain ⟨sameIndex, -, -, -, start, isStart, sameChunk⟩ := reached.start_of_cargo member
    exact ⟨sameIndex, start, isStart, sameChunk⟩
  · have absent : ∀ cargo ∈ logged.cargos, document.id ∉ cargo.call.ids := by
      intro cargo member landed
      obtain ⟨-, arrival, isArrival, sameChunk, -⟩ := reached.start_of_cargo member
      exact reached.overdue isStart late isArrival isThere (sameChunk ▸ landed)
    refine ⟨absent, adds.untouched fun cargo member written isWritten both => ?_⟩
    exact absent cargo member
      (both.2 ▸ List.mem_map_of_mem (Memory.mem_of_mem_writes isWritten).2)

/-- A store that takes too long is left with nothing. -/
theorem nothing_lands_late_in_slow_store :
    ∃ logged,
      Reaches ⟨Sink.memory, .standard, 1⟩ ⟨1, 1, 5⟩ ⟨[("a", "1")], by decide⟩ "index"
        (.empty 10 [] false 0) logged ∧
      logged.Punctual Sink.memory 5 ∧
      logged.sink.Remembers logged.cargos ∧
      logged.starts.map Start.due = [10] ∧
      Sink.bodyUnder? logged.sink.documents "index" "a" = none ∧
      ∃ timed, (write ⟨Sink.memory, .standard, 1⟩ ⟨1, 1, 5⟩ ⟨[("a", "1")], by decide⟩ "index"
        (.empty 10 [] false 0)) = (outcomeOf ⟨1, 1, 5⟩ timed, timed.sink) ∧
        timed.writing.clock ≤ 5 := by
  have facts := nothing_lands_late ⟨Sink.memory, .standard, 1⟩ ⟨1, 1, 5⟩
    ⟨[("a", "1")], by decide⟩ "index" (.empty 10 [] false 0)
  have reached : Reaches ⟨Sink.memory, .standard, 1⟩ ⟨1, 1, 5⟩ ⟨[("a", "1")], by decide⟩ "index"
      (.empty 10 [] false 0) _ :=
    ⟨_, [.accept, .start, .send 0, .pass 5, .conclude, .cut 0], rfl, rfl⟩
  obtain ⟨remembers, -, untouched⟩ := facts.2.2 (fun store _ _ => store.latency) .standard 1 _ []
    _ (Memory.remembers_empty 10 [] false 0) reached
  obtain ⟨returned, -, written, inTime, -⟩ := facts.2.1 _ (by decide) rfl
  exact ⟨_, reached, facts.1 _ reached, remembers, rfl,
    (untouched _ (List.mem_singleton.mpr rfl) (by decide) ⟨"a", "1"⟩
      (List.mem_singleton.mpr rfl)).2, returned.toDelivery, written, inTime⟩

end Writer

end RepoVitals.Bulk

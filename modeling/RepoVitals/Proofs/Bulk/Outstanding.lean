import RepoVitals.Proofs.Bulk.Deadline
/-!
Outstanding parts: what a write says when it fails.

Owns:
- the two ways in which the deadline is noticed, and what each of them counts;
- the parts that have not ended at the deadline, which never will;
- `verdict_of_write`.

When the deadline is noticed by the clock, whatever is not finished is outstanding.  When all parts
have noticed it first, those that panicked are not among the outstanding ones.
-/

namespace RepoVitals.Bulk

variable {σ : Type}

/-! ### Counting parts -/

namespace Writing

/-- How many parts did not finish all their sub-batches. -/
def unfinished (writing : Writing) : Nat :=
  writing.parts.countP (fun part => !part.isFinished)

/-- How many parts panicked. -/
def panicked (writing : Writing) : Nat :=
  writing.parts.countP (fun part => part.progress = .panicked)

variable {writing : Writing} {outstanding : Nat}

theorem length_sub_finished (writing : Writing) :
    writing.parts.length - writing.parts.countP Partition.isFinished = writing.unfinished := by
  have all := List.length_eq_countP_add_countP Partition.isFinished (l := writing.parts)
  have same : writing.parts.countP (fun part => ¬part.isFinished = true) = writing.unfinished := by
    unfold unfinished
    congr 1
    funext part
    cases part.isFinished <;> rfl
  rw [same] at all
  omega

/-- Settled parts are finished, cut off or panicked. -/
theorem unfinished_of_settled (settled : ∀ part ∈ writing.parts, part.isSettled = true) :
    writing.parts.countP Partition.isAbandoned + writing.panicked = writing.unfinished := by
  unfold panicked unfinished
  generalize writing.parts = parts at settled
  induction parts with
  | nil => rfl
  | cons part rest inductionHypothesis =>
    have others := inductionHypothesis fun other member =>
      settled other (List.mem_cons_of_mem _ member)
    have share : (if part.isAbandoned = true then 1 else 0) +
        (if decide (part.progress = .panicked) = true then 1 else 0) =
        if (!part.isFinished) = true then 1 else 0 := by
      have isSettled := settled part List.mem_cons_self
      unfold Partition.isSettled at isSettled
      unfold Partition.isAbandoned Partition.isFinished
      cases ended : part.progress <;> simp_all
    simp only [List.countP_cons]
    omega

theorem unfinished_le (writing : Writing) : writing.unfinished ≤ writing.parts.length :=
  List.countP_le_length

/-- What is outstanding at the deadline: by the clock everything unfinished, and otherwise all of
that but the parts that panicked. -/
theorem outstanding_of_conclusionNow?
    (now : writing.conclusionNow? = some (.timedOut outstanding)) :
    1 ≤ outstanding ∧ outstanding ≤ writing.parts.length ∧
      ((∃ part ∈ writing.parts, part.isSettled = false) → outstanding = writing.unfinished) ∧
      ((∀ part ∈ writing.parts, part.isSettled = true) →
        outstanding + writing.panicked = writing.unfinished) := by
  have atMost := writing.unfinished_le
  rcases timedOut_of_conclusionNow? now with ⟨settled, rfl, some⟩ | ⟨unsettled, -, rfl⟩
  · have counted := unfinished_of_settled settled
    refine ⟨some, by omega, fun unsettled => ?_, fun _ => counted⟩
    obtain ⟨part, member, notSettled⟩ := unsettled
    rw [settled part member] at notSettled
    cases notSettled
  · rw [length_sub_finished]
    refine ⟨?_, atMost, fun _ => rfl, fun settled => ?_⟩
    · obtain ⟨part, member, notSettled⟩ := unsettled
      refine List.countP_pos_iff.mpr ⟨part, member, ?_⟩
      cases ended : part.progress <;>
        simp [Partition.isSettled, Partition.isFinished, ended] at notSettled ⊢
    · obtain ⟨part, member, notSettled⟩ := unsettled
      rw [settled part member] at notSettled
      cases notSettled

end Writing

/-! ### Parts that have not ended -/

/-- All sub-batches were sent and answered, or a call panicked. -/
def Partition.Ended (part : Partition) : Prop :=
  part.progress = .finished ∨ part.progress = .panicked

theorem Partition.Shift.unended {writing : Writing} {batchSize : Nat} {part next : Partition}
    (sound : part.Sound batchSize) (shift : part.Shift writing next) : ¬next.Ended := by
  unfold Ended
  cases shift with
  | accepted waits unconcluded => simp
  | taken queued =>
    -- A part that a worker has just taken has all its documents left.
    have some : part.unsent ≠ [] := sound.unsent_of_untouched (.inr queued) ▸ sound.holds
    rw [progress_proceed, if_neg some]
    simp
  | stopped ready late => simp

namespace Logged

variable {sink : Sink σ} {origin : Delivery σ} {before after logged told : Logged σ}

/-- From the deadline on no part ends but by a call that is due at it. -/
theorem Moves.unended (moves : Moves sink before after) (sound : before.Sound origin)
    (late : before.writing.deadline ≤ before.writing.clock)
    (later : ∀ call ∈ before.airborne, call.due ≠ before.writing.deadline)
    (unended : ∃ part ∈ before.writing.parts, ¬part.Ended) :
    ∃ part ∈ after.writing.parts, ¬part.Ended := by
  have put : ∀ {position : Nat} {busy next : Partition},
      before.writing.parts[position]? = some busy → ¬next.Ended →
      ∃ part ∈ (before.writing.put position next).parts, ¬part.Ended := by
    intro position busy next found nextUnended
    have inside : position < before.writing.parts.length := (List.getElem?_eq_some_iff.mp found).1
    exact ⟨next, List.mem_set inside _, nextUnended⟩
  cases moves with
  | shift position part next found shift =>
    exact put found (shift.unended (sound.parts part (List.mem_of_getElem? found)))
  | dispatch position part chunk flight state found ready early taken flies =>
    exact absurd early (Nat.not_lt_of_le late)
  | land call part chunk landing state aloft found sending due lands =>
    exact absurd due (Nat.not_le_of_lt (lt_due_of_late sound late aloft (later call aloft)))
  | cut position part chunk found sending stillLate => exact put found (by simp [Partition.Ended])
  | pass nanoseconds waits may => exact unended
  | conclude conclusion unconcluded now => exact unended

theorem unended_of_course (fresh : origin.Fresh) (sound : before.Sound origin)
    (course : Course sink before after) (late : before.writing.deadline ≤ before.writing.clock)
    (later : ∀ call ∈ before.airborne, call.due ≠ before.writing.deadline)
    (unended : ∃ part ∈ before.writing.parts, ¬part.Ended) :
    ∃ part ∈ after.writing.parts, ¬part.Ended := by
  induction course with
  | refl => exact unended
  | tail course moves inductionHypothesis =>
    obtain ⟨stillLate, -, noMore⟩ := late_of_course course late
    refine moves.unended (sound.course fresh course) stillLate (fun call member => ?_)
      inductionHypothesis
    exact (frame_of_course course).deadline ▸ later call (noMore call member)

theorem verdict_of_step (stepped : logged.step sink .conclude = some told) :
    ∃ conclusion, logged.writing.conclusion = none ∧
      logged.writing.conclusionNow? = some conclusion ∧
      told = { logged with
        writing := { logged.writing with conclusion := some conclusion } } := by
  obtain ⟨writing, moved, rfl⟩ := quiet_of_step rfl rfl stepped
  simp only [Writing.step] at moved
  split at moved
  · rename_i unconcluded
    obtain ⟨conclusion, now, rfl⟩ := Option.map_eq_some_iff.mp moved
    exact ⟨conclusion, unconcluded, now, rfl⟩
  · cases moved

theorem Moves.noneCut (moves : Moves sink before after)
    (early : before.writing.clock < before.writing.deadline)
    (noneCut : ∀ part ∈ before.writing.parts, part.isAbandoned = false) :
    ∀ part ∈ after.writing.parts, part.isAbandoned = false := by
  have proceeds : ∀ part : Partition, part.proceed.isAbandoned = false := by
    intro part
    unfold Partition.isAbandoned
    rw [part.progress_proceed]
    by_cases isEmpty : part.unsent = []
    · rw [if_pos isEmpty]
    · rw [if_neg isEmpty]
  cases moves with
  | shift position part next found shift =>
    cases shift with
    | accepted waits unconcluded => exact Writing.forall_mem_put noneCut rfl
    | taken queued => exact Writing.forall_mem_put noneCut (proceeds part)
    | stopped ready late => exact absurd early (Nat.not_lt_of_le late)
  | dispatch position part chunk flight state found ready early taken flies =>
    exact Writing.forall_mem_put noneCut rfl
  | land call part chunk landing state aloft found sending due lands =>
    cases landing with
    | answered outcome => exact Writing.forall_mem_put noneCut (proceeds _)
    | panicked => exact Writing.forall_mem_put noneCut rfl
  | cut position part chunk found sending late => exact absurd early (Nat.not_lt_of_le late)
  | pass nanoseconds waits may => exact noneCut
  | conclude conclusion unconcluded now => exact noneCut

/-- The steady schedule notices the deadline by the clock. -/
structure ByClock (logged : Logged σ) : Prop where
  noneCut : logged.writing.conclusion = none →
    ∀ part ∈ logged.writing.parts, part.isAbandoned = false
  verdict : ∀ outstanding, logged.writing.conclusion = some (.timedOut outstanding) →
    outstanding = logged.writing.unfinished

/-- With nothing cut off, the verdict of failure is that of the clock. -/
private theorem byClock_of_now {conclusion : Conclusion}
    (noneCut : ∀ part ∈ before.writing.parts, part.isAbandoned = false)
    (now : before.writing.conclusionNow? = some conclusion) :
    ByClock { before with writing := { before.writing with conclusion := some conclusion } } where
  noneCut := nofun
  verdict := by
    intro outstanding isTimedOut
    cases isTimedOut
    rcases Writing.timedOut_of_conclusionNow? now with ⟨-, rfl, some⟩ | ⟨-, -, rfl⟩
    · obtain ⟨part, member, isCut⟩ := List.countP_pos_iff.mp some
      rw [noneCut part member] at isCut
      cases isCut
    · exact before.writing.length_sub_finished

theorem byClock_kept (sink : Sink σ) (origin : Delivery σ) :
    KeptBySteady sink origin ByClock := by
  intro before choice after sound unconcluded byClock next stepped
  have noneCut := byClock.noneCut unconcluded
  by_cases late : before.writing.isLate = true
  · -- The schedule gives the verdict before any part notices the deadline.
    have isConclude : choice = .conclude := by
      simpa [Delivery.next?, unconcluded, late] using next.symm
    subst isConclude
    obtain ⟨conclusion, -, now, rfl⟩ := verdict_of_step stepped
    exact byClock_of_now noneCut now
  · have early : before.writing.clock < before.writing.deadline :=
      Nat.lt_of_not_le fun past => late (decide_eq_true past)
    have moves := moves_of_step stepped
    have stillNoneCut := moves.noneCut early noneCut
    have silent : after.writing.conclusion = none → after.ByClock := by
      intro none
      refine ⟨fun _ => stillNoneCut, fun outstanding isTimedOut => ?_⟩
      rw [none] at isTimedOut
      cases isTimedOut
    cases moves with
    | conclude conclusion unconcluded now => exact byClock_of_now noneCut now
    | _ => exact silent unconcluded

end Logged

/-! ### The verdict -/

/-- A write that failed has a part that never ends, unless a call was due just at the deadline. -/
theorem Logged.unended_of_timedOut {sink : Sink σ} {origin : Delivery σ} {logged : Logged σ}
    (fresh : origin.Fresh) (course : Course sink (new origin) logged) {outstanding : Nat}
    (timedOut : logged.writing.conclusion = some (.timedOut outstanding))
    (noTie : ∀ start ∈ logged.starts, start.due ≠ origin.writing.deadline) :
    ∃ part ∈ logged.writing.parts, ¬part.Ended := by
  obtain ⟨moment, before, undecided, now, after⟩ :=
    conclude_of_course course fresh.unconcluded timedOut
  rcases Writing.timedOut_of_conclusionNow? now with ⟨-, rfl, some⟩ | ⟨unsettled, late, -⟩
  · -- What was cut off stays so.
    obtain ⟨part, member, isCut⟩ := List.countP_pos_iff.mp some
    obtain ⟨position, inside, rfl⟩ := List.mem_iff_getElem.mp member
    have stays := settled_of_course after (List.getElem?_eq_getElem inside)
      ((Partition.isSettled_iff _).mpr (.inr (.inr isCut)))
    refine ⟨_, List.mem_of_getElem? stays, fun ended => ?_⟩
    unfold Partition.isAbandoned at isCut
    rcases ended with finished | panicked <;> simp_all
  · -- What had not ended at the deadline never does.
    have sound := sound_of_course fresh before
    have told : Moves sink moment _ := .conclude _ undecided now
    refine unended_of_course fresh (told.sound fresh sound) after late (fun call aloft => ?_) ?_
    · obtain ⟨start, isStart, -, -, sameDue⟩ := (timed_of_course fresh before).aloft call aloft
      have kept : logged.starts = moment.starts := (late_of_course after late).2.1
      rw [show moment.writing.deadline = origin.writing.deadline from sound.deadline, ← sameDue]
      exact noTie start (kept ▸ isStart)
    · obtain ⟨part, member, notSettled⟩ := unsettled
      refine ⟨part, member, fun hasEnded => ?_⟩
      rw [part.isSettled_iff.mpr (hasEnded.imp id .inl)] at notSettled
      cases notSettled

namespace Writer

variable {writer : Writer σ} {options : WriteOptions} {batch : Batch} {index : String} {state : σ}
  {logged told : Logged σ}

theorem outcomeOf_of_timedOut {delivery : Delivery σ} {outstanding : Nat}
    (timedOut : delivery.writing.conclusion = some (.timedOut outstanding)) :
    outcomeOf options delivery =
      .error (.ofCause (.bulkWriteTimeout delivery.index options.timeout outstanding)) := by
  rw [outcomeOf, timedOut]

theorem Reaches.completed_iff (reached : writer.Reaches options batch index state logged)
    (concluded : logged.writing.conclusion ≠ none)
    (noTie : ∀ start ∈ logged.starts, start.due ≠ options.timeout) :
    (∃ report, outcomeOf options logged.toDelivery = .ok report) ↔
      ∀ part ∈ logged.writing.parts, part.Ended := by
  obtain ⟨ensured, -, course⟩ := reached.course
  have fresh := writer.fresh_delivery options batch index ensured
  constructor
  · rintro ⟨report, succeeded⟩
    obtain ⟨total, completed, -⟩ := completed_of_outcomeOf succeeded
    exact (Logged.completed_of_course course fresh.unconcluded completed).1
  · intro ended
    obtain ⟨conclusion, given⟩ := Option.ne_none_iff_exists'.mp concluded
    cases conclusion with
    | completed total =>
      rw [outcomeOf, given]
      exact ⟨_, rfl⟩
    | timedOut outstanding =>
      obtain ⟨part, member, notEnded⟩ := Logged.unended_of_timedOut fresh course given noTie
      exact absurd (ended part member) notEnded

theorem Reaches.verdict (reached : writer.Reaches options batch index state logged)
    (stepped : logged.step writer.sink .conclude = some told) :
    (∃ report, outcomeOf options told.toDelivery = .ok report) ∨
      ∃ outstanding,
        outcomeOf options told.toDelivery =
          .error (.ofCause (.bulkWriteTimeout index options.timeout outstanding)) ∧
        1 ≤ outstanding ∧
        outstanding ≤
          (partition batch.documents.length options.parallelism options.batchSize).length ∧
        (outstanding = told.writing.unfinished ↔
          (∃ part ∈ told.writing.parts, part.isSettled = false) ∨ told.writing.panicked = 0) ∧
        ((∀ part ∈ told.writing.parts, part.isSettled = true) →
          outstanding + told.writing.panicked = told.writing.unfinished) := by
  have lengths := congrArg List.length reached.lengths
  simp only [List.length_map] at lengths
  obtain ⟨conclusion, -, now, rfl⟩ := Logged.verdict_of_step stepped
  cases conclusion with
  | completed total => exact .inl ⟨_, rfl⟩
  | timedOut outstanding =>
    obtain ⟨some, atMost, byClock, byParts⟩ := Writing.outstanding_of_conclusionNow? now
    refine .inr ⟨outstanding, ?_, some, lengths ▸ atMost, ?_, byParts⟩
    · rw [outcomeOf_of_timedOut rfl, reached.index_eq]
    · constructor
      · intro same
        by_cases settled : ∀ part ∈ logged.writing.parts, part.isSettled = true
        · have counted := byParts settled
          refine .inr ?_
          change logged.writing.panicked = 0
          change outstanding = logged.writing.unfinished at same
          omega
        · exact .inl (by simpa using settled)
      · rintro (unsettled | noPanic)
        · exact byClock unsettled
        · by_cases settled : ∀ part ∈ logged.writing.parts, part.isSettled = true
          · have counted := byParts settled
            change logged.writing.panicked = 0 at noPanic
            rw [noPanic, Nat.add_zero] at counted
            exact counted
          · exact byClock (by simpa using settled)

/-- **The verdict of a write.**  A write succeeds if and only if every part has ended, all of them
before the deadline; otherwise it times out, and says how many parts are outstanding.  These are the
parts that are not finished, except that a panicked part is not counted when all parts have noticed
the deadline before whoever waits for them does.  Under the steady schedule that never happens. -/
theorem verdict_of_write (writer : Writer σ) (options : WriteOptions) (batch : Batch)
    (index : String) (state : σ) (holds : batch.documents ≠ []) :
    (∀ logged, writer.Reaches options batch index state logged →
      logged.writing.conclusion ≠ none →
      (∀ start ∈ logged.starts, start.due ≠ options.timeout) →
      ((∃ report, outcomeOf options logged.toDelivery = .ok report) ↔
        ∀ part ∈ logged.writing.parts, part.Ended) ∧
      ∀ arrival ∈ logged.arrivals, arrival.time < options.timeout) ∧
    (∀ logged told, writer.Reaches options batch index state logged →
      logged.step writer.sink .conclude = some told →
      (∃ report, outcomeOf options told.toDelivery = .ok report) ∨
        ∃ outstanding,
          outcomeOf options told.toDelivery =
            .error (.ofCause (.bulkWriteTimeout index options.timeout outstanding)) ∧
          1 ≤ outstanding ∧
          outstanding ≤
            (partition batch.documents.length options.parallelism options.batchSize).length ∧
          (outstanding = told.writing.unfinished ↔
            (∃ part ∈ told.writing.parts, part.isSettled = false) ∨ told.writing.panicked = 0) ∧
          ((∀ part ∈ told.writing.parts, part.isSettled = true) →
            outstanding + told.writing.panicked = told.writing.unfinished)) ∧
    (∀ ensured, Index.ensure writer.sink writer.settings index state = (.ok (), ensured) →
      ∃ logged, writer.Reaches options batch index state logged ∧
        writer.write options batch index state =
          (outcomeOf options logged.toDelivery, logged.sink) ∧
        logged.writing.conclusion ≠ none ∧
        ∀ outstanding, logged.writing.conclusion = some (.timedOut outstanding) →
          outstanding = logged.writing.unfinished) := by
  refine ⟨fun logged reached concluded noTie => ⟨reached.completed_iff concluded noTie, ?_⟩,
    fun logged told reached stepped => reached.verdict stepped, fun ensured ensures => ?_⟩
  · intro arrival isArrival
    obtain ⟨inTime, start, isStart, -, -, sameDue⟩ := reached.timed.2 arrival isArrival
    exact Nat.lt_of_le_of_ne inTime (sameDue ▸ noTie start isStart)
  · have fresh := writer.fresh_delivery options batch index ensured
    have startsByClock : Logged.ByClock (.new (writer.delivery options batch index ensured)) := by
      refine ⟨fun _ part member => ?_, nofun⟩
      rw [(fresh.parts part member).2]
      rfl
    obtain ⟨logged, reached, returned, -, concluded, byClock⟩ :=
      writer.write_of_ensured options batch index state ensured holds ensures
        (Logged.byClock_kept writer.sink _) startsByClock
    exact ⟨logged, reached, returned, concluded, byClock.verdict⟩

/-- One part panics, and the other is cut off before anybody is told: two parts are unfinished, but
only one is outstanding. -/
theorem verdict_of_write_after_panic :
    ∃ logged told other : Logged Sink.Rehearsal,
      Reaches ⟨Sink.rehearsed, .standard, 2⟩ ⟨2, 1, 5⟩ ⟨[("a", "1"), ("b", "2")], by decide⟩ "index"
        ⟨.ok true, .ok .created, [⟨0, true, none, none⟩, ⟨10, false, none, none⟩], [], []⟩ logged ∧
      logged.step Sink.rehearsed .conclude = some told ∧
      outcomeOf ⟨2, 1, 5⟩ told.toDelivery =
        .error (.ofCause (.bulkWriteTimeout "index" 5 1)) ∧
      1 + told.writing.panicked = told.writing.unfinished ∧ told.writing.unfinished = 2 ∧
      (¬∀ part ∈ told.writing.parts, part.Ended) ∧
      write ⟨Sink.rehearsed, .standard, 2⟩ ⟨2, 1, 5⟩ ⟨[("a", "1"), ("b", "2")], by decide⟩ "index"
        ⟨.ok true, .ok .created, [⟨0, true, none, none⟩, ⟨10, false, none, none⟩], [], []⟩ =
          (outcomeOf ⟨2, 1, 5⟩ other.toDelivery, other.sink) := by
  have facts := verdict_of_write ⟨Sink.rehearsed, .standard, 2⟩ ⟨2, 1, 5⟩
    ⟨[("a", "1"), ("b", "2")], by decide⟩ "index"
    ⟨.ok true, .ok .created, [⟨0, true, none, none⟩, ⟨10, false, none, none⟩], [], []⟩ (by decide)
  have reached : Reaches ⟨Sink.rehearsed, .standard, 2⟩ ⟨2, 1, 5⟩
      ⟨[("a", "1"), ("b", "2")], by decide⟩ "index"
      ⟨.ok true, .ok .created, [⟨0, true, none, none⟩, ⟨10, false, none, none⟩], [], []⟩ _ :=
    ⟨_, [.accept, .accept, .start, .start, .send 0, .land 0, .send 1, .pass 5, .cut 1], rfl, rfl⟩
  have afterwards : Reaches ⟨Sink.rehearsed, .standard, 2⟩ ⟨2, 1, 5⟩
      ⟨[("a", "1"), ("b", "2")], by decide⟩ "index"
      ⟨.ok true, .ok .created, [⟨0, true, none, none⟩, ⟨10, false, none, none⟩], [], []⟩ _ :=
    ⟨_, [.accept, .accept, .start, .start, .send 0, .land 0, .send 1, .pass 5, .cut 1, .conclude],
      rfl, rfl⟩
  obtain ⟨verdict, -⟩ := facts.1 _ afterwards nofun (by
    rintro start (_ | ⟨_, _ | ⟨_, ⟨⟩⟩⟩) <;> decide)
  rcases facts.2.1 _ _ reached rfl with ⟨report, ⟨⟩⟩ | ⟨outstanding, ⟨⟩, -, -, -, byParts⟩
  obtain ⟨other, -, returned, -⟩ := facts.2.2 _ rfl
  refine ⟨_, _, other, reached, rfl, rfl, byParts (by decide), rfl, fun ended => ?_, returned⟩
  obtain ⟨report, ⟨⟩⟩ := verdict.mpr ended

end Writer

end RepoVitals.Bulk

import Mathlib.Data.List.Flatten
import RepoVitals.Proofs.Batch
import RepoVitals.Proofs.Bulk.Verdict
import RepoVitals.Sink.Rehearsed
/-!
Dispatch: which documents the calls of a write take.

Owns:
- the documents that the calls of a part have taken, which are the first ones of the part;
- `dispatched_of_course`: together the calls have taken just these documents, each call a
  contiguous part of its batch;
- `each_document_sent_once`: no document is sent twice, and a write that completed without a panic
  has sent them all.
-/

namespace RepoVitals.Bulk

variable {σ : Type}

/-- The documents that the calls of a part have taken. -/
def Partition.taken (batchSize : Nat) (part : Partition) : List Entry :=
  part.documents.take (part.tally.requests * batchSize)

namespace Partition

variable {batchSize : Nat} {part : Partition}

theorem taken_dispatch (sound : part.Sound batchSize) :
    (part.dispatch batchSize).taken batchSize =
      part.taken batchSize ++ part.unsent.take batchSize := by
  simp only [taken, dispatch, Tally.add, Nat.succ_mul, List.take_add, ← sound.unsent]

theorem taken_new (documents : List Entry) : (new documents).taken batchSize = [] := by
  simp [taken, new, Tally.zero]

theorem taken_of_finished (sound : part.Sound batchSize) (finished : part.progress = .finished) :
    part.taken batchSize = part.documents := by
  have none := sound.unsent ▸ sound.finished finished
  exact List.take_of_length_le (List.drop_eq_nil_iff.mp none)

theorem taken_sublist (batchSize : Nat) (part : Partition) :
    (part.taken batchSize).Sublist part.documents :=
  List.take_sublist _ _

end Partition

namespace Logged

/-- What the calls of a write have taken: each a contiguous part of the documents of a part, and all
together what the parts have handed out. -/
structure Dispatched (origin : Delivery σ) (logged : Logged σ) : Prop where
  each : ∀ start ∈ logged.starts, start.index = origin.index ∧ start.chunk ≠ [] ∧
    start.chunk.length ≤ origin.writing.batchSize ∧
    ∃ documents ∈ origin.writing.parts.map Partition.documents, start.chunk <:+: documents
  all : (logged.starts.flatMap Start.chunk).Perm
    (logged.writing.parts.flatMap (Partition.taken origin.writing.batchSize))

variable {sink : Sink σ} {origin : Delivery σ} {before after logged : Logged σ}

private theorem flatMap_taken_put {position : Nat} {part next : Partition} {batchSize : Nat}
    (found : before.writing.parts[position]? = some part)
    (documents : next.documents = part.documents)
    (requests : next.tally.requests = part.tally.requests) :
    (before.writing.put position next).parts.flatMap (Partition.taken batchSize) =
      before.writing.parts.flatMap (Partition.taken batchSize) := by
  have same : next.taken batchSize = part.taken batchSize := by
    simp only [Partition.taken, documents, requests]
  rw [List.flatMap_def, List.flatMap_def, Writing.map_put found same]

theorem Moves.dispatched (moves : Moves sink before after) (fresh : origin.Fresh)
    (sound : before.Sound origin) (dispatched : before.Dispatched origin) :
    after.Dispatched origin := by
  cases moves with
  | shift position part next found shift =>
    have same := congrArg Tally.requests shift.frame.2.2
    exact ⟨dispatched.each,
      dispatched.all.trans (.of_eq (flatMap_taken_put found shift.frame.1 same).symm)⟩
  | dispatch position part chunk flight state found ready early taken flies =>
    have member := List.mem_of_getElem? found
    have partSound := sound.parts part member
    have positive : 0 < before.writing.batchSize := sound.batchSize ▸ fresh.sends
    have isSent := (partSound.dispatch positive ready).sending chunk (by rw [taken]; rfl)
    refine ⟨fun start isStart => ?_, ?_⟩
    · rcases List.mem_append.mp isStart with old | new
      · exact dispatched.each start old
      · cases List.mem_singleton.mp new
        refine ⟨sound.index, isSent.1, ?_, part.documents, ?_, ?_⟩
        · rw [taken, ← sound.batchSize]
          exact List.length_take_le _ _
        · exact sound.documents ▸ List.mem_map_of_mem member
        · rw [taken, partSound.unsent]
          exact (List.take_prefix _ _).isInfix.trans (List.drop_suffix _ _).isInfix
    · -- The call takes what follows on the documents that the part has handed out before.
      have more : (part.dispatch before.writing.batchSize).taken origin.writing.batchSize =
          part.taken origin.writing.batchSize ++ chunk := by
        rw [taken, ← sound.batchSize]
        exact Partition.taken_dispatch partSound
      rw [List.flatMap_append]
      refine (dispatched.all.append_right _).trans ?_
      simpa using (Writing.perm_flatMap_put found more).symm
  | land call part chunk landing state aloft found sending due lands =>
    have frame := part.landed_frame chunk landing
    exact ⟨dispatched.each,
      dispatched.all.trans (.of_eq (flatMap_taken_put found frame.1 frame.2).symm)⟩
  | cut position part chunk found sending late =>
    refine ⟨dispatched.each,
      dispatched.all.trans (.of_eq (Eq.symm (flatMap_taken_put found ?_ ?_)))⟩ <;> rfl
  | pass nanoseconds waits may => exact ⟨dispatched.each, dispatched.all⟩
  | conclude conclusion unconcluded now => exact ⟨dispatched.each, dispatched.all⟩

theorem dispatched_of_course (fresh : origin.Fresh) (course : Course sink (new origin) logged) :
    logged.Dispatched origin := by
  induction course with
  | refl =>
    refine ⟨by simp [new], ?_⟩
    have untouched : ∀ part ∈ origin.writing.parts,
        part.taken origin.writing.batchSize = [] := by
      intro part member
      rw [(fresh.parts part member).2]
      exact Partition.taken_new _
    rw [show (new origin).writing.parts.flatMap (Partition.taken origin.writing.batchSize) = [] from
      List.flatMap_eq_nil_iff.mpr untouched]
    rfl
  | tail course moves inductionHypothesis =>
    exact moves.dispatched fresh (sound_of_course fresh course) inductionHypothesis

end Logged

/-! ### The batch -/

namespace Writer

section Reaches

variable {writer : Writer σ} {options : WriteOptions} {batch : Batch} {index : String} {state : σ}
  {logged : Logged σ}

theorem Reaches.index_eq (reached : writer.Reaches options batch index state logged) :
    logged.index = index := by
  obtain ⟨_, -, course⟩ := reached.course
  exact (Logged.frame_of_course course).index

theorem Reaches.documents (reached : writer.Reaches options batch index state logged) :
    logged.writing.parts.flatMap Partition.documents = batch.documents := by
  obtain ⟨ensured, -, course⟩ := reached.course
  have sound := Logged.sound_of_course (writer.fresh_delivery options batch index ensured) course
  rw [List.flatMap_def, sound.documents, ← List.flatMap_def,
    writer.flatMap_documents_delivery options batch index ensured]

theorem Reaches.lengths (reached : writer.Reaches options batch index state logged) :
    logged.writing.parts.map (fun part => part.documents.length) =
      (partition batch.documents.length options.parallelism options.batchSize).map
        Range.length := by
  obtain ⟨ensured, -, course⟩ := reached.course
  have sound := Logged.sound_of_course (writer.fresh_delivery options batch index ensured) course
  have lengths := congrArg (List.map List.length) sound.documents
  simp only [List.map_map, delivery, Writing.new] at lengths
  refine lengths.trans (List.map_congr_left fun range isRange => ?_)
  exact length_slice (bounds_of_mem_partition isRange).2

/-- Every call goes to the index and takes a contiguous part of the batch, a sub-batch at most. -/
theorem Reaches.each_start (reached : writer.Reaches options batch index state logged)
    {start : Start} (isStart : start ∈ logged.starts) :
    start.index = index ∧ start.chunk ≠ [] ∧ start.chunk.length ≤ max 1 options.batchSize ∧
      start.chunk <:+: batch.documents := by
  obtain ⟨ensured, -, course⟩ := reached.course
  have dispatched :=
    Logged.dispatched_of_course (writer.fresh_delivery options batch index ensured) course
  obtain ⟨sameIndex, some, small, documents, member, isPart⟩ := dispatched.each start isStart
  refine ⟨sameIndex, some, small, isPart.trans ?_⟩
  rw [← writer.flatMap_documents_delivery options batch index ensured, List.flatMap_def]
  exact List.infix_of_mem_flatten member

/-- No document is in two calls. -/
theorem Reaches.nodup_starts (reached : writer.Reaches options batch index state logged) :
    ((logged.starts.flatMap Start.chunk).map Entry.id).Nodup := by
  obtain ⟨ensured, -, course⟩ := reached.course
  have dispatched :=
    Logged.dispatched_of_course (writer.fresh_delivery options batch index ensured) course
  have sublist : (logged.writing.parts.flatMap
      (Partition.taken (max 1 options.batchSize))).Sublist batch.documents := by
    rw [← reached.documents]
    exact .flatMap_right _ fun part _ => part.taken_sublist _
  exact (dispatched.all.map Entry.id).nodup_iff.mpr
    ((sublist.map Entry.id).nodup batch.unrepeated_ids)

/-- A write that succeeded without a panic has sent all its documents. -/
theorem Reaches.perm_starts (reached : writer.Reaches options batch index state logged)
    {report : WriteReport} (succeeded : outcomeOf options logged.toDelivery = .ok report)
    (calm : ∀ arrival ∈ logged.arrivals, arrival.landing ≠ .panicked) :
    (logged.starts.flatMap Start.chunk).Perm batch.documents := by
  have documents := reached.documents
  obtain ⟨ensured, -, course⟩ := reached.course
  have fresh := writer.fresh_delivery options batch index ensured
  have sound := Logged.sound_of_course fresh course
  obtain ⟨total, completed, -⟩ := completed_of_outcomeOf succeeded
  have ended := (Logged.completed_of_course course fresh.unconcluded completed).1
  refine (Logged.dispatched_of_course fresh course).all.trans (.of_eq ?_)
  rw [← documents]
  refine List.flatMap_congr fun part member => ?_
  -- Without a panic every part is finished, and has handed out all that it holds.
  have finished : part.progress = .finished := by
    refine (ended part member).resolve_right fun panicked => ?_
    obtain ⟨position, inside, rfl⟩ := List.mem_iff_getElem.mp member
    obtain ⟨arrival, isArrival, -, landed⟩ := Logged.panic_of_course fresh course
      (List.getElem?_eq_getElem inside) panicked
    exact calm arrival isArrival landed
  exact Partition.taken_of_finished (sound.batchSize ▸ sound.parts part member) finished

end Reaches

/-- **Every document is sent at most once.**  Whatever time, workers and sink do, the calls of a
write go to its index, and each takes a contiguous part of the batch, neither empty nor larger than
a sub-batch; no document is in two calls.  A write that succeeded without a panic has sent them all,
whatever the answers were. -/
theorem each_document_sent_once (writer : Writer σ) (options : WriteOptions) (batch : Batch)
    (index : String) (state : σ) (logged : Logged σ)
    (reached : writer.Reaches options batch index state logged) :
    (∀ start ∈ logged.starts, start.index = index ∧ start.chunk ≠ [] ∧
      start.chunk.length ≤ max 1 options.batchSize ∧ start.chunk <:+: batch.documents) ∧
    ((logged.starts.flatMap Start.chunk).map Entry.id).Nodup ∧
    (∀ report, outcomeOf options logged.toDelivery = .ok report →
      (∀ arrival ∈ logged.arrivals, arrival.landing ≠ .panicked) →
      (logged.starts.flatMap Start.chunk).Perm batch.documents) := by
  exact ⟨fun start isStart => reached.each_start isStart, reached.nodup_starts,
    fun report succeeded calm => reached.perm_starts succeeded calm⟩

/-- The first call fails as a whole; the documents behind it are sent all the same. -/
theorem each_document_sent_once_after_failure :
    ∃ logged report,
      Reaches ⟨Sink.rehearsed, .standard, 1⟩ ⟨2, 1, 5⟩
        ⟨[("a", "1"), ("b", "2"), ("c", "3")], by decide⟩ "index"
        ⟨.ok true, .ok .created, [⟨0, false, some "down", none⟩], [], []⟩ logged ∧
      outcomeOf ⟨2, 1, 5⟩ logged.toDelivery = .ok report ∧
      report.total.failedRequests = 1 ∧
      (logged.starts.flatMap Start.chunk).Perm [⟨"a", "1"⟩, ⟨"b", "2"⟩, ⟨"c", "3"⟩] := by
  have reached : Reaches ⟨Sink.rehearsed, .standard, 1⟩ ⟨2, 1, 5⟩
      ⟨[("a", "1"), ("b", "2"), ("c", "3")], by decide⟩ "index"
      ⟨.ok true, .ok .created, [⟨0, false, some "down", none⟩], [], []⟩ _ :=
    ⟨_, [.accept, .accept, .start, .send 0, .land 0, .send 0, .land 0, .start, .send 1, .land 1,
      .conclude], rfl, rfl⟩
  refine ⟨_, _, reached, rfl, rfl, ?_⟩
  refine (each_document_sent_once _ _ _ _ _ _ reached).2.2 _ rfl fun arrival isArrival => ?_
  rcases isArrival with _ | ⟨_, _ | ⟨_, _ | ⟨_, ⟨⟩⟩⟩⟩ <;> exact nofun

end Writer

end RepoVitals.Bulk

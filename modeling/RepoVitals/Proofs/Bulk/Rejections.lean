import RepoVitals.Proofs.Bulk.Accounting
import RepoVitals.Sink.Rehearsed
/-!
Rejections: what a report of success says about documents that were not stored.

Owns:
- `Logged.Cleared`: the documents of a part have been in a call that landed, or are pending;
- the documents that a call leaves unstored, against the rejections in its answer;
- `rejections_in_report`: what the failures of a report of success are made of, when they cover the
  rejections that the calls reported, and when there are none.

A call counts its accepted items, whatever documents they are about.  So an answer with more items
than documents can hide a rejection behind an accepted item.
-/

namespace RepoVitals.Bulk

open Sink (Landing)

variable {σ : Type}

/-! ### Answers -/

namespace Arrival

/-- The verdicts in the answer to a call; a call that failed as a whole has none. -/
def verdicts (arrival : Arrival) : List Verdict :=
  match arrival.landing with
  | .answered (.ok verdicts) => verdicts
  | _ => []

/-- How many items of the answer are failures. -/
def rejected (arrival : Arrival) : Nat := (failuresOf arrival.verdicts).length

/-- How many items of the answer are successes. -/
def accepted (arrival : Arrival) : Nat := arrival.verdicts.countP Verdict.isStored

/-- How many documents of a call are not stored. -/
def unstored (arrival : Arrival) : Nat := arrival.chunk.length - arrival.stored

/-- The rejections in an answer, at most one for each document of its call. -/
def reported (arrival : Arrival) : Nat := min arrival.chunk.length arrival.rejected

/-- No rejection stands behind an accepted item: nothing is rejected, or nothing is accepted, or
there are no more items than documents. -/
def HidesNothing (arrival : Arrival) : Prop :=
  arrival.rejected = 0 ∨ arrival.accepted = 0 ∨
    arrival.accepted + arrival.rejected ≤ arrival.chunk.length

theorem stored_eq (arrival : Arrival) :
    arrival.stored = min arrival.accepted arrival.chunk.length := by
  obtain ⟨part, time, chunk, landing⟩ := arrival
  cases landing with
  | answered outcome =>
    cases outcome with
    | ok verdicts => rfl
    | error failure => exact (Nat.zero_min _).symm
  | panicked => exact (Nat.zero_min _).symm

theorem stored_add_unstored (arrival : Arrival) :
    arrival.stored + arrival.unstored = arrival.chunk.length := by
  rw [unstored, stored_eq]
  omega

/-- A call counts the rejections in its answer exactly if the answer hides none. -/
theorem reported_le_unstored_iff (arrival : Arrival) (sends : arrival.chunk ≠ []) :
    arrival.reported ≤ arrival.unstored ↔ arrival.HidesNothing := by
  have positive := List.length_pos_iff.mpr sends
  rw [reported, unstored, stored_eq, HidesNothing]
  omega

theorem unstored_eq_zero_iff (arrival : Arrival) :
    arrival.unstored = 0 ↔ arrival.chunk.length ≤ arrival.accepted := by
  rw [unstored, stored_eq]
  omega

end Arrival

/-! ### Landed calls -/

theorem Partition.Shift.pending_eq {writing : Writing} {part next : Partition}
    (shift : part.Shift writing next) : next.pending = part.pending := by
  cases shift with
  | accepted waits unconcluded => simp only [pending, waits]
  | taken queued => rw [pending_proceed, pending, queued]
  | stopped ready late => simp only [pending, ready]

theorem Partition.pending_landed (part : Partition) (chunk : List Entry) (landing : Landing) :
    (part.landed chunk landing).pending = part.unsent.length := by
  cases landing with
  | answered outcome => exact pending_proceed _
  | panicked => rfl

namespace Logged

/-- How many documents the calls of a part took that have landed. -/
def landedBy (logged : Logged σ) (position : Nat) : Nat :=
  ((logged.arrivals.filter (fun arrival => arrival.part = position)).map
    (fun arrival => arrival.chunk.length)).sum

/-- The documents of a part have been in a call that landed, or are pending. -/
def Cleared (logged : Logged σ) : Prop :=
  ∀ position part, logged.writing.parts[position]? = some part →
    logged.landedBy position + part.pending = part.documents.length

variable {sink : Sink σ} {origin : Delivery σ} {before after logged : Logged σ}

private theorem cleared_put {position : Nat} {part next : Partition} (state : σ)
    (airborne : List Airborne) (starts : List Start)
    (found : before.writing.parts[position]? = some part)
    (documents : next.documents = part.documents) (pending : next.pending = part.pending)
    (cleared : before.Cleared) :
    Cleared { before with
      writing := before.writing.put position next
      sink := state
      airborne := airborne
      starts := starts } := by
  refine Writing.forall_put found ?_ fun other otherPart _ isThere =>
    cleared other otherPart isThere
  rw [documents, pending]
  exact cleared position part found

theorem Moves.cleared (moves : Moves sink before after) (sound : before.Sound origin)
    (cleared : before.Cleared) : after.Cleared := by
  cases moves with
  | shift position part next found shift =>
    exact cleared_put _ _ _ found shift.frame.1 shift.pending_eq cleared
  | dispatch position part chunk flight state found ready early taken flies =>
    refine cleared_put _ _ _ found rfl ?_ cleared
    simp only [Partition.pending, Partition.dispatch, ready, List.length_take, List.length_drop]
    omega
  | land call part chunk landing state aloft found sending due lands =>
    have same : call.chunk = chunk := by
      obtain ⟨other, isThere, otherSending⟩ := sound.aloft call aloft
      rw [found] at isThere
      cases isThere
      rw [sending] at otherSending
      cases otherSending
      rfl
    refine Writing.forall_put found ?_ fun other otherPart different isThere => ?_
    · have here := cleared call.part part found
      simp only [Partition.pending, sending] at here
      rw [Partition.pending_landed, (part.landed_frame chunk landing).1, ← here]
      simp [landedBy, same, Nat.add_assoc]
    · have there := cleared other otherPart isThere
      simp only [landedBy, List.filter_append, List.filter_singleton, Ne.symm different,
        decide_false, cond_false, List.append_nil]
      exact there
  | cut position part chunk found sending late =>
    refine cleared_put _ _ _ found rfl ?_ cleared
    simp only [Partition.pending, sending]
  | pass nanoseconds waits may => exact cleared
  | conclude conclusion unconcluded now => exact cleared

theorem cleared_of_course (fresh : origin.Fresh) (course : Course sink (new origin) logged) :
    logged.Cleared := by
  induction course with
  | refl =>
    intro position part found
    rw [(fresh.parts part (List.mem_of_getElem? found)).2]
    exact Nat.zero_add _
  | tail course moves inductionHypothesis =>
    exact moves.cleared (sound_of_course fresh course) inductionHypothesis

/-! ### The report -/

/-- How many documents the parts hold that panicked. -/
def lost (logged : Logged σ) : Nat :=
  ((logged.writing.parts.filter (fun part => part.progress = .panicked)).map
    (fun part => part.documents.length)).sum

/-- How many documents the calls of a part left unstored that have landed. -/
def unstoredBy (logged : Logged σ) (position : Nat) : Nat :=
  ((logged.arrivals.filter (fun arrival => arrival.part = position)).map Arrival.unstored).sum

theorem storedBy_add_unstoredBy (logged : Logged σ) (position : Nat) :
    logged.storedBy position + logged.unstoredBy position = logged.landedBy position := by
  rw [storedBy, unstoredBy, landedBy, ← List.sum_map_add]
  simp only [Arrival.stored_add_unstored]

variable {position : Nat} {part : Partition}

theorem hasPanicked_iff (found : logged.writing.parts[position]? = some part) :
    logged.hasPanicked position = true ↔ part.progress = .panicked := by
  rw [hasPanicked, found, Option.any_some, decide_eq_true_iff]

/-- A part that is through failed to store what its calls left unstored. -/
theorem failed_of_finished (sound : logged.Sound origin) (accounted : logged.Accounted)
    (cleared : logged.Cleared) (found : logged.writing.parts[position]? = some part)
    (finished : part.progress = .finished) :
    part.account.failed = logged.unstoredBy position := by
  have partSound := sound.parts part (List.mem_of_getElem? found)
  have balance := (Partition.account_of_ended partSound (.inl finished)).1
  have landed := cleared position part found
  have succeeded := (accounted.tally position part found).2
  have both := logged.storedBy_add_unstoredBy position
  rw [Partition.pending, finished] at landed
  simp only [partSound.finished finished, List.length_nil, Nat.add_zero] at landed
  rw [Partition.account, if_neg (by simp [finished])] at balance ⊢
  omega

theorem failed_of_panicked (panicked : part.progress = .panicked) :
    part.account.failed = part.documents.length := by
  rw [Partition.account, if_pos panicked]

/-- The failures of all parts are what the calls left unstored, and the documents of the parts that
panicked. -/
theorem sum_failed (sound : logged.Sound origin) (accounted : logged.Accounted)
    (cleared : logged.Cleared)
    (ended : ∀ part ∈ logged.writing.parts,
      part.progress = .finished ∨ part.progress = .panicked) :
    (logged.writing.parts.map fun part => part.account.failed).sum =
      ((logged.arrivals.filter (fun arrival => !logged.hasPanicked arrival.part)).map
        Arrival.unstored).sum + logged.lost := by
  have split : ∀ part : Partition, part.account.failed =
      (if part.progress = .panicked then 0 else part.account.failed) +
        if part.progress = .panicked then part.documents.length else 0 := by
    intro part
    split
    · rename_i panicked
      rw [failed_of_panicked panicked, Nat.zero_add]
    · rfl
  rw [List.map_congr_left fun part _ => split part, List.sum_map_add, sum_map_eq_sum_range,
    ← sum_map_range_filter Arrival.unstored Arrival.part
      (fun position => !logged.hasPanicked position) accounted.arrivals, lost]
  congr 1
  · refine congrArg List.sum (List.map_congr_left fun position isPosition => ?_)
    have inside := List.mem_range.mp isPosition
    have found := List.getElem?_eq_getElem inside
    rw [found, Option.map_some, Option.getD_some]
    by_cases panicked : logged.writing.parts[position].progress = .panicked
    · rw [if_pos panicked, (hasPanicked_iff found).mpr panicked, Bool.not_true, if_neg nofun]
    · have finished := (ended _ (List.mem_of_getElem? found)).resolve_right panicked
      have calm : logged.hasPanicked position = false :=
        Bool.eq_false_iff.mpr fun has => panicked ((hasPanicked_iff found).mp has)
      rw [if_neg panicked, calm, Bool.not_false, if_pos rfl,
        failed_of_finished sound accounted cleared found finished]
      rfl
  · rw [List.sum_map_ite]
    simp

/-- The reports of the calls of a part are covered by its failures if they hide nothing. -/
theorem sum_reported_le (sound : logged.Sound origin) (accounted : logged.Accounted)
    (cleared : logged.Cleared) (sends : ∀ arrival ∈ logged.arrivals, arrival.chunk ≠ [])
    (found : logged.writing.parts[position]? = some part)
    (ended : part.progress = .finished ∨ part.progress = .panicked)
    (hideNothing : ∀ arrival ∈ logged.arrivals,
      logged.hasPanicked arrival.part = false → arrival.HidesNothing) :
    ((logged.arrivals.filter (fun arrival => arrival.part = position)).map Arrival.reported).sum ≤
      part.account.failed := by
  rcases ended with finished | panicked
  · rw [failed_of_finished sound accounted cleared found finished, unstoredBy]
    refine List.sum_le_sum fun arrival isArrival => ?_
    obtain ⟨isArrival, here⟩ := List.mem_filter.mp isArrival
    have calm : logged.hasPanicked arrival.part = false := by
      rw [of_decide_eq_true here, Bool.eq_false_iff, Ne, hasPanicked_iff found, finished]
      nofun
    exact (arrival.reported_le_unstored_iff (sends arrival isArrival)).mpr
      (hideNothing arrival isArrival calm)
  · rw [failed_of_panicked panicked, ← cleared position part found]
    refine Nat.le_trans ?_ (Nat.le_add_right _ _)
    exact List.sum_le_sum fun arrival _ => Nat.min_le_left _ _

theorem lost_eq_zero_iff (sound : logged.Sound origin) :
    logged.lost = 0 ↔ ∀ position, logged.hasPanicked position = false := by
  constructor
  · intro nothingLost position
    refine Bool.eq_false_iff.mpr fun has => ?_
    cases found : logged.writing.parts[position]? with
    | none => simp [hasPanicked, found] at has
    | some part =>
      have member := List.mem_of_getElem? found
      have panicked := (hasPanicked_iff found).mp has
      refine (sound.parts part member).holds (List.length_eq_zero_iff.mp ?_)
      refine List.sum_eq_zero_iff.mp nothingLost _ (List.mem_map_of_mem ?_)
      exact List.mem_filter.mpr ⟨member, decide_eq_true panicked⟩
  · intro calm
    have none : logged.writing.parts.filter (fun part => part.progress = .panicked) = [] := by
      refine List.filter_eq_nil_iff.mpr fun part member panicked => ?_
      obtain ⟨position, inside, rfl⟩ := List.mem_iff_getElem.mp member
      have has :=
        (hasPanicked_iff (List.getElem?_eq_getElem inside)).mpr (of_decide_eq_true panicked)
      rw [calm position] at has
      cases has
    rw [lost, none]
    rfl

end Logged

/-- What a report of success says about rejections. -/
structure WriteReport.CountsRejections (logged : Logged σ) (report : WriteReport) : Prop where
  /-- Not stored is what the answers left unstored, and all of the parts that panicked. -/
  failed : report.total.failed =
    ((logged.arrivals.filter (fun arrival => !logged.hasPanicked arrival.part)).map
      Arrival.unstored).sum + logged.lost
  /-- A call counts the rejections in its answer exactly if the answer hides none. -/
  each : ∀ arrival ∈ logged.arrivals,
    arrival.reported ≤ arrival.unstored ↔ arrival.HidesNothing
  covered : (∀ arrival ∈ logged.arrivals,
      logged.hasPanicked arrival.part = false → arrival.HidesNothing) →
    (logged.arrivals.map Arrival.reported).sum ≤ report.total.failed
  /-- There are no failures exactly if every answer has an accepted item for each document. -/
  none : report.total.failed = 0 ↔
    ∀ arrival ∈ logged.arrivals, arrival.chunk.length ≤ arrival.accepted

namespace Writer

variable {writer : Writer σ} {options : WriteOptions} {batch : Batch} {index : String} {state : σ}
  {logged : Logged σ} {report : WriteReport}

theorem Reaches.chunk_ne_nil (reached : writer.Reaches options batch index state logged)
    (succeeded : outcomeOf options logged.toDelivery = .ok report)
    {arrival : Arrival} (isArrival : arrival ∈ logged.arrivals) : arrival.chunk ≠ [] := by
  have member := List.mem_map_of_mem (f := fun arrival => (arrival.part, arrival.chunk)) isArrival
  rw [← (reached.addsUp succeeded).answered.mem_iff] at member
  obtain ⟨start, isStart, same⟩ := List.mem_map.mp member
  have sameChunk : start.chunk = arrival.chunk := congrArg Prod.snd same
  exact sameChunk ▸ (reached.each_start isStart).2.1

theorem Reaches.countsRejections (reached : writer.Reaches options batch index state logged)
    (succeeded : outcomeOf options logged.toDelivery = .ok report) :
    report.CountsRejections logged := by
  have sends : ∀ arrival ∈ logged.arrivals, arrival.chunk ≠ [] := fun arrival isArrival =>
    reached.chunk_ne_nil succeeded isArrival
  obtain ⟨ensured, -, course⟩ := reached.course
  have fresh := writer.fresh_delivery options batch index ensured
  have sound := Logged.sound_of_course fresh course
  have accounted := Logged.accounted_of_course fresh course
  have cleared := Logged.cleared_of_course fresh course
  obtain ⟨total, completed, rfl⟩ := completed_of_outcomeOf succeeded
  obtain ⟨ended, rfl⟩ := Logged.completed_of_course course fresh.unconcluded completed
  have failed := Logged.sum_failed sound accounted cleared ended
  have isSum : ((logged.writing.parts.map Partition.account).foldl Tally.add .zero).failed =
      (logged.writing.parts.map fun part => part.account.failed).sum := by
    simp only [Tally.foldl_add, Tally.add, Tally.zero, Nat.zero_add, List.map_map,
      Function.comp_def]
  refine ⟨isSum.trans failed, fun arrival isArrival =>
    arrival.reported_le_unstored_iff (sends arrival isArrival), fun hideNothing => ?_, ?_⟩
  · have byPosition := sum_map_range_filter Arrival.reported Arrival.part (fun _ => true)
      accounted.arrivals
    simp only [↓reduceIte, List.filter_true] at byPosition
    rw [isSum, sum_map_eq_sum_range, ← byPosition]
    refine List.sum_le_sum fun position isPosition => ?_
    have inside := List.mem_range.mp isPosition
    have found := List.getElem?_eq_getElem inside
    rw [found, Option.map_some, Option.getD_some]
    exact Logged.sum_reported_le sound accounted cleared sends found
      (ended _ (List.mem_of_getElem? found)) hideNothing
  · rw [isSum, failed, Nat.add_eq_zero_iff, Logged.lost_eq_zero_iff sound]
    constructor
    · rintro ⟨nothingUnstored, calm⟩ arrival isArrival
      refine arrival.unstored_eq_zero_iff.mp (List.sum_eq_zero_iff.mp nothingUnstored _ ?_)
      refine List.mem_map_of_mem (List.mem_filter.mpr ⟨isArrival, ?_⟩)
      rw [calm, Bool.not_false]
    · intro accepted
      constructor
      · refine List.sum_eq_zero fun amount isAmount => ?_
        obtain ⟨arrival, isArrival, rfl⟩ := List.mem_map.mp isAmount
        exact arrival.unstored_eq_zero_iff.mpr (accepted arrival (List.mem_of_mem_filter isArrival))
      · -- A call that panicked has accepted nothing, and so would have had no documents.
        refine Logged.not_hasPanicked_of_calm fresh course fun arrival isArrival panicked => ?_
        have none : arrival.accepted = 0 := by
          rw [Arrival.accepted, Arrival.verdicts, panicked]
          rfl
        have atMost := accepted arrival isArrival
        rw [none, Nat.le_zero, List.length_eq_zero_iff] at atMost
        exact sends arrival isArrival atMost

/-- **What the failures of a report of success are made of.**  This holds wherever a write can get
to and of what it returns, an empty batch included, and whatever lists of items the sink returns.
The rejections that the calls reported are all counted unless an answer hides one, and an answer can
do so only with more items than documents. -/
theorem rejections_in_report (writer : Writer σ) (options : WriteOptions) (batch : Batch)
    (index : String) (state : σ) :
    (∀ logged report, writer.Reaches options batch index state logged →
      outcomeOf options logged.toDelivery = .ok report → report.CountsRejections logged) ∧
    ∀ report after, writer.write options batch index state = (.ok report, after) →
      ∃ logged : Logged σ, report.CountsRejections logged ∧ after = logged.sink ∧
        (batch.documents ≠ [] → writer.Reaches options batch index state logged) := by
  refine ⟨fun logged report reached succeeded => reached.countsRejections succeeded,
    fun report after written => ?_⟩
  by_cases isEmpty : batch.documents = []
  · rw [write, isEmpty, List.isEmpty_nil, if_pos rfl] at written
    cases written
    refine ⟨.new (writer.delivery options batch index state), ?_, rfl, fun holds =>
      absurd isEmpty holds⟩
    have noParts : (writer.delivery options batch index state).writing.parts = [] := by
      rw [delivery, isEmpty]
      rfl
    have noCalls (arrival : Arrival) :
        arrival ∉ (Logged.new (writer.delivery options batch index state)).arrivals :=
      List.not_mem_nil
    exact {
      failed := by rw [Logged.lost, Logged.new, noParts]; rfl
      each := fun arrival isArrival => absurd isArrival (noCalls arrival)
      covered := fun _ => Nat.le_refl _
      none := ⟨fun _ arrival isArrival => absurd isArrival (noCalls arrival), fun _ => rfl⟩ }
  · obtain ⟨logged, reached, succeeded, rfl⟩ := reaches_of_write isEmpty written
    exact ⟨logged, reached.countsRejections succeeded, rfl, fun _ => reached⟩

/-- A store that stores the one document of a call and rejects another one, which nobody sent. -/
def strayRejection : Sink.Rehearsal where
  existence := .ok true
  creation := .ok .created
  steps := [⟨0, false, none, some [.stored "a", ⟨"x", 400, some "rejected"⟩]⟩]
  created := []
  calls := []

/-- The stray rejection is reported by the call, and the report of the write shows no failure. -/
theorem rejections_in_report_behind_accepted_item :
    ∃ (logged : Logged Sink.Rehearsal) (report returned : WriteReport) (after : Sink.Rehearsal),
      Reaches ⟨Sink.rehearsed, .standard, 1⟩ ⟨1, 1, 5⟩ ⟨[("a", "1")], by decide⟩ "index"
        strayRejection logged ∧
      report.CountsRejections logged ∧ report.total = ⟨1, 1, 0, 0⟩ ∧
      (logged.arrivals.map Arrival.reported).sum = 1 ∧
      write ⟨Sink.rehearsed, .standard, 1⟩ ⟨1, 1, 5⟩ ⟨[("a", "1")], by decide⟩ "index"
        strayRejection = (.ok returned, after) ∧
      returned.total.failed = 0 ∧
      ∃ other : Logged Sink.Rehearsal, returned.CountsRejections other := by
  have reached : Reaches ⟨Sink.rehearsed, .standard, 1⟩ ⟨1, 1, 5⟩ ⟨[("a", "1")], by decide⟩
      "index" strayRejection _ :=
    ⟨_, [.accept, .start, .send 0, .land 0, .conclude], rfl, rfl⟩
  have facts := rejections_in_report ⟨Sink.rehearsed, .standard, 1⟩ ⟨1, 1, 5⟩
    ⟨[("a", "1")], by decide⟩ "index" strayRejection
  obtain ⟨other, counts, -⟩ := facts.2 _ _ rfl
  exact ⟨_, _, _, _, reached, facts.1 _ _ reached rfl, rfl, rfl, rfl, rfl, other, counts⟩

end Writer

end RepoVitals.Bulk

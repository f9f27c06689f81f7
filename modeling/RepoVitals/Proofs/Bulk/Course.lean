import Mathlib.Algebra.BigOperators.Group.List.Basic
import Mathlib.Algebra.Order.Ring.Nat
import RepoVitals.Proofs.Bulk.Parts
/-!
Courses: what is always true of a write on its way.

Owns:
- `Delivery.Fresh`, a delivery before anything has happened;
- `Logged.Sound`, the invariant of every course from there on;
- `sound_of_course`, and the same for everything that `Writer.Reaches`.

The invariant ties three things together: what the parts believe is on its way, what is in the air,
and the clock.  Time can pass the deadline only when nothing is in the air any more.
-/

namespace RepoVitals.Bulk

open Sink (Flight Landing)

variable {σ : Type}

/-! ### Parts that change and parts that do not -/

section Put

variable {writing : Writing} {position : Nat} {part next : Partition}

theorem Writing.getElem?_put (found : writing.parts[position]? = some part) (next : Partition)
    (other : Nat) :
    (writing.put position next).parts[other]? =
      if other = position then some next else writing.parts[other]? := by
  have inside : position < writing.parts.length := (List.getElem?_eq_some_iff.mp found).1
  simp only [put, List.getElem?_set, eq_comm, inside, ↓reduceIte]

theorem Writing.forall_mem_put {property : Partition → Prop}
    (others : ∀ part ∈ writing.parts, property part) (here : property next) :
    ∀ part ∈ (writing.put position next).parts, property part := by
  intro part member
  rcases List.mem_or_eq_of_mem_set member with old | same
  · exact others part old
  · exact same ▸ here

/-- What holds of the changed part and of all others holds of every part. -/
theorem Writing.forall_put {property : Nat → Partition → Prop}
    (found : writing.parts[position]? = some part) (here : property position next)
    (others : ∀ (other : Nat) (otherPart : Partition), other ≠ position →
      writing.parts[other]? = some otherPart → property other otherPart)
    (other : Nat) (otherPart : Partition)
    (isThere : (writing.put position next).parts[other]? = some otherPart) :
    property other otherPart := by
  rw [getElem?_put found] at isThere
  split at isThere
  · rename_i same
    cases isThere
    exact same ▸ here
  · rename_i different
    exact others other otherPart different isThere

theorem Writing.map_put {α : Type} {view : Partition → α}
    (found : writing.parts[position]? = some part) (same : view next = view part) :
    (writing.put position next).parts.map view = writing.parts.map view := by
  refine List.ext_getElem? fun other => ?_
  rw [List.getElem?_map, List.getElem?_map, getElem?_put found]
  split
  · rename_i here
    rw [here, found, Option.map_some, Option.map_some, same]
  · rfl

theorem Writing.split_put (found : writing.parts[position]? = some part) (next : Partition) :
    ∃ front back, writing.parts = front ++ part :: back ∧
      (writing.put position next).parts = front ++ next :: back := by
  obtain ⟨inside, here⟩ := List.getElem?_eq_some_iff.mp found
  refine ⟨writing.parts.take position, writing.parts.drop (position + 1), ?_, ?_⟩
  · rw [← here, List.getElem_cons_drop, List.take_append_drop]
  · rw [Writing.put, List.set_eq_take_append_cons_drop, if_pos inside]

/-- What the change of a part adds is added to all parts together. -/
theorem Writing.perm_flatMap_put {α : Type} {view : Partition → List α} {extra : List α}
    (found : writing.parts[position]? = some part) (more : view next = view part ++ extra) :
    ((writing.put position next).parts.flatMap view).Perm
      (writing.parts.flatMap view ++ extra) := by
  obtain ⟨front, back, split, put⟩ := Writing.split_put found next
  rw [put, split]
  simp only [List.flatMap_append, List.flatMap_cons, more, List.append_assoc]
  exact ((List.perm_append_comm.append_left _).append_left _)

theorem Writing.sum_map_put (weight : Partition → Nat)
    (found : writing.parts[position]? = some part) (next : Partition) :
    ((writing.put position next).parts.map weight).sum + weight part =
      (writing.parts.map weight).sum + weight next := by
  obtain ⟨front, back, split, put⟩ := Writing.split_put found next
  rw [put, split]
  simp only [List.map_append, List.map_cons, List.sum_append, List.sum_cons]
  omega

end Put

namespace Partition

variable {writing : Writing} {part next : Partition} {chunk : List Entry} {landing : Landing}

theorem Shift.frame (shift : part.Shift writing next) :
    next.documents = part.documents ∧ next.unsent = part.unsent ∧ next.tally = part.tally := by
  cases shift <;> exact ⟨rfl, rfl, rfl⟩

theorem proceed_not_sending (part : Partition) (chunk : List Entry) :
    part.proceed.progress ≠ .sending chunk := by
  rw [progress_proceed]
  split <;> simp

theorem Shift.not_sending (shift : part.Shift writing next) (chunk : List Entry) :
    part.progress ≠ .sending chunk ∧ next.progress ≠ .sending chunk := by
  cases shift with
  | accepted waits unconcluded => simp [waits]
  | taken queued => exact ⟨by simp [queued], part.proceed_not_sending chunk⟩
  | stopped ready late => simp [ready]

theorem landed_frame (part : Partition) (chunk : List Entry) (landing : Landing) :
    (part.landed chunk landing).documents = part.documents ∧
      (part.landed chunk landing).tally.requests = part.tally.requests := by
  cases landing with
  | answered outcome => cases outcome <;> exact ⟨rfl, rfl⟩
  | panicked => exact ⟨rfl, rfl⟩

theorem landed_not_sending (part : Partition) (chunk other : List Entry) (landing : Landing) :
    (part.landed chunk landing).progress ≠ .sending other := by
  cases landing with
  | answered outcome => exact proceed_not_sending _ _
  | panicked => simp [landed]

end Partition

/-! ### Fresh deliveries -/

/-- A delivery before anything has happened: there is a worker, calls take documents, and every part
holds documents and waits. -/
structure Delivery.Fresh (origin : Delivery σ) : Prop where
  works : 0 < origin.writing.poolSize
  sends : 0 < origin.writing.batchSize
  parts : ∀ part ∈ origin.writing.parts, part.documents ≠ [] ∧ part = .new part.documents
  clock : origin.writing.clock = 0
  unconcluded : origin.writing.conclusion = none
  grounded : origin.airborne = []

theorem Writer.fresh_delivery (writer : Writer σ) (options : WriteOptions) (batch : Batch)
    (index : String) (state : σ) : (writer.delivery options batch index state).Fresh where
  works := Nat.le_max_left 1 _
  sends := Nat.le_max_left 1 _
  parts := by
    intro part member
    simp only [delivery, Writing.new, List.map_map, List.mem_map, Function.comp_apply] at member
    obtain ⟨range, isRange, rfl⟩ := member
    have bounds := bounds_of_mem_partition isRange
    refine ⟨?_, rfl⟩
    rw [← List.length_pos_iff, Partition.new, length_slice bounds.2]
    exact bounds.1
  clock := rfl
  unconcluded := rfl
  grounded := rfl

/-- The parts of a write, one after the other, are its batch. -/
theorem Writer.flatMap_documents_delivery (writer : Writer σ) (options : WriteOptions)
    (batch : Batch) (index : String) (state : σ) :
    (writer.delivery options batch index state).writing.parts.flatMap Partition.documents =
      batch.documents := by
  simp only [delivery, Writing.new, List.map_map, List.flatMap_map, Function.comp_def,
    Partition.new]
  exact flatMap_slice_partition batch.documents options.parallelism options.batchSize

/-! ### The invariant -/

/-- What never changes on a course. -/
structure Logged.Frame (origin : Delivery σ) (logged : Logged σ) : Prop where
  index : logged.index = origin.index
  poolSize : logged.writing.poolSize = origin.writing.poolSize
  batchSize : logged.writing.batchSize = origin.writing.batchSize
  deadline : logged.writing.deadline = origin.writing.deadline
  documents : logged.writing.parts.map Partition.documents =
    origin.writing.parts.map Partition.documents

/-- What is always true on a course. -/
structure Logged.Sound (origin : Delivery σ) (logged : Logged σ) : Prop extends
    Logged.Frame origin logged where
  parts : ∀ part ∈ logged.writing.parts, part.Sound logged.writing.batchSize
  /-- Whatever is in the air is the call of a part that waits for it. -/
  aloft : ∀ call ∈ logged.airborne, ∃ part,
    logged.writing.parts[call.part]? = some part ∧ part.progress = .sending call.chunk
  /-- A part that waits for a call has one in the air. -/
  awaited : ∀ position part chunk, logged.writing.parts[position]? = some part →
    part.progress = .sending chunk → ∃ call ∈ logged.airborne, call.part = position
  /-- A part has at most one call in the air. -/
  single : (logged.airborne.map Airborne.part).Nodup
  /-- Calls land in time. -/
  due : ∀ call ∈ logged.airborne, logged.writing.clock ≤ call.due
  /-- No call takes longer than it was to take. -/
  soon : ∀ call ∈ logged.airborne, call.due ≤ logged.writing.clock + call.flight.delay
  /-- The deadline is passed only after the verdict, with nothing in the air. -/
  clock : logged.writing.clock ≤ logged.writing.deadline ∨
    logged.writing.conclusion ≠ none ∧ logged.airborne = []

namespace Logged

variable {sink : Sink σ} {origin : Delivery σ} {before after logged : Logged σ}

theorem Moves.frame (moves : Moves sink before after) : Frame before.toDelivery after := by
  cases moves with
  | shift position part next found shift =>
    exact ⟨rfl, rfl, rfl, rfl, Writing.map_put found shift.frame.1⟩
  | dispatch position part chunk flight state found ready early taken flies =>
    exact ⟨rfl, rfl, rfl, rfl, Writing.map_put found rfl⟩
  | land call part chunk landing state aloft found sending due lands =>
    exact ⟨rfl, rfl, rfl, rfl, Writing.map_put found (part.landed_frame chunk landing).1⟩
  | cut position part chunk found sending late =>
    exact ⟨rfl, rfl, rfl, rfl, Writing.map_put found rfl⟩
  | pass nanoseconds waits may => exact ⟨rfl, rfl, rfl, rfl, rfl⟩
  | conclude conclusion unconcluded now => exact ⟨rfl, rfl, rfl, rfl, rfl⟩

theorem Frame.trans {middle : Logged σ} (first : Frame origin middle)
    (second : Frame middle.toDelivery logged) : Frame origin logged where
  index := second.index.trans first.index
  poolSize := second.poolSize.trans first.poolSize
  batchSize := second.batchSize.trans first.batchSize
  deadline := second.deadline.trans first.deadline
  documents := second.documents.trans first.documents

theorem sound_new (fresh : origin.Fresh) : (new origin).Sound origin where
  index := rfl
  poolSize := rfl
  batchSize := rfl
  deadline := rfl
  documents := rfl
  parts := by
    intro part member
    obtain ⟨holds, isNew⟩ := fresh.parts part member
    rw [isNew]
    exact Partition.sound_new fresh.sends holds
  aloft := by simp [new, fresh.grounded]
  awaited := by
    intro position part chunk found sending
    rw [(fresh.parts part (List.mem_of_getElem? found)).2] at sending
    cases sending
  single := by simp [new, fresh.grounded]
  due := by simp [new, fresh.grounded]
  soon := by simp [new, fresh.grounded]
  clock := .inl (fresh.clock ▸ Nat.zero_le _)

private theorem Moves.parts (moves : Moves sink before after) (sound : before.Sound origin)
    (positive : 0 < before.writing.batchSize) :
    ∀ part ∈ after.writing.parts, part.Sound before.writing.batchSize := by
  have kept : ∀ {position : Nat} {part : Partition}, before.writing.parts[position]? = some part →
      part.Sound before.writing.batchSize :=
    fun found => sound.parts _ (List.mem_of_getElem? found)
  cases moves with
  | shift position part next found shift =>
    exact Writing.forall_mem_put sound.parts ((kept found).shift shift)
  | dispatch position part chunk flight state found ready early taken flies =>
    exact Writing.forall_mem_put sound.parts ((kept found).dispatch positive ready)
  | land call part chunk landing state aloft found sending due lands =>
    exact Writing.forall_mem_put sound.parts ((kept found).landed sending)
  | cut position part chunk found sending late =>
    exact Writing.forall_mem_put sound.parts ((kept found).cut sending)
  | pass nanoseconds waits may => exact sound.parts
  | conclude conclusion unconcluded now => exact sound.parts

private theorem aloft_put {position : Nat} {part next : Partition}
    (found : before.writing.parts[position]? = some part)
    (notSending : ∀ chunk, part.progress ≠ .sending chunk)
    {call : Airborne}
    (aloft : ∃ part, before.writing.parts[call.part]? = some part ∧
      part.progress = .sending call.chunk) :
    ∃ part, (before.writing.put position next).parts[call.part]? = some part ∧
      part.progress = .sending call.chunk := by
  obtain ⟨other, isThere, sending⟩ := aloft
  refine ⟨other, ?_, sending⟩
  rw [Writing.getElem?_put found, if_neg, isThere]
  intro here
  rw [here, found] at isThere
  cases isThere
  exact notSending _ sending

private theorem aloft_put_filter {position : Nat} {part next : Partition}
    (found : before.writing.parts[position]? = some part)
    (aloft : ∀ call ∈ before.airborne, ∃ part,
      before.writing.parts[call.part]? = some part ∧ part.progress = .sending call.chunk) :
    ∀ call ∈ before.airborne.filter (fun other => other.part ≠ position), ∃ part,
      (before.writing.put position next).parts[call.part]? = some part ∧
        part.progress = .sending call.chunk := by
  intro call member
  obtain ⟨isAloft, elsewhere⟩ := List.mem_filter.mp member
  rw [Writing.getElem?_put found, if_neg (of_decide_eq_true elsewhere)]
  exact aloft call isAloft

private theorem Moves.aloft (moves : Moves sink before after) (sound : before.Sound origin) :
    ∀ call ∈ after.airborne, ∃ part,
      after.writing.parts[call.part]? = some part ∧ part.progress = .sending call.chunk := by
  cases moves with
  | shift position part next found shift =>
    intro call member
    exact aloft_put found (fun chunk => (shift.not_sending chunk).1) (sound.aloft call member)
  | dispatch position part chunk flight state found ready early taken flies =>
    intro call member
    rcases List.mem_append.mp member with old | new
    · exact aloft_put found (by simp [ready]) (sound.aloft call old)
    · cases List.mem_singleton.mp new
      refine ⟨_, by rw [Writing.getElem?_put found, if_pos rfl], ?_⟩
      rw [taken]
      rfl
  | land call part chunk landing state aloft found sending due lands =>
    exact aloft_put_filter found sound.aloft
  | cut position part chunk found sending late => exact aloft_put_filter found sound.aloft
  | pass nanoseconds waits may => exact sound.aloft
  | conclude conclusion unconcluded now => exact sound.aloft

private theorem awaited_put {position : Nat} {part next : Partition} {airborne : List Airborne}
    (found : before.writing.parts[position]? = some part)
    (notSending : ∀ chunk, next.progress ≠ .sending chunk)
    (kept : ∀ call ∈ before.airborne, call.part ≠ position → call ∈ airborne)
    (sound : before.Sound origin) (other : Nat) (otherPart : Partition) (chunk : List Entry)
    (isThere : (before.writing.put position next).parts[other]? = some otherPart)
    (sending : otherPart.progress = .sending chunk) :
    ∃ call ∈ airborne, call.part = other := by
  rw [Writing.getElem?_put found] at isThere
  split at isThere
  · cases isThere
    exact absurd sending (notSending chunk)
  · rename_i elsewhere
    obtain ⟨call, member, same⟩ := sound.awaited other otherPart chunk isThere sending
    exact ⟨call, kept call member (same ▸ elsewhere), same⟩

private theorem Moves.awaited (moves : Moves sink before after) (sound : before.Sound origin) :
    ∀ position part chunk, after.writing.parts[position]? = some part →
      part.progress = .sending chunk → ∃ call ∈ after.airborne, call.part = position := by
  have filtered : ∀ position, ∀ call ∈ before.airborne, call.part ≠ position →
      call ∈ before.airborne.filter (fun other => other.part ≠ position) :=
    fun position call member elsewhere => List.mem_filter.mpr ⟨member, decide_eq_true elsewhere⟩
  cases moves with
  | shift position part next found shift =>
    exact awaited_put found (fun chunk => (shift.not_sending chunk).2)
      (fun call member _ => member) sound
  | dispatch position part chunk flight state found ready early taken flies =>
    intro other otherPart otherChunk isThere sending
    rw [Writing.getElem?_put found] at isThere
    split at isThere
    · rename_i here
      exact ⟨_, List.mem_append_right _ (List.mem_singleton.mpr rfl), here.symm⟩
    · obtain ⟨call, member, same⟩ := sound.awaited other otherPart otherChunk isThere sending
      exact ⟨call, List.mem_append_left _ member, same⟩
  | land call part chunk landing state aloft found sending due lands =>
    exact awaited_put found (fun other => part.landed_not_sending chunk other landing)
      (filtered call.part) sound
  | cut position part chunk found sending late =>
    exact awaited_put found (by simp) (filtered position) sound
  | pass nanoseconds waits may => exact sound.awaited
  | conclude conclusion unconcluded now => exact sound.awaited

private theorem Moves.single (moves : Moves sink before after) (sound : before.Sound origin) :
    (after.airborne.map Airborne.part).Nodup := by
  have filtered : ∀ position,
      ((before.airborne.filter (fun call => call.part ≠ position)).map Airborne.part).Nodup :=
    fun position => sound.single.sublist (List.filter_sublist.map _)
  cases moves with
  | shift position part next found shift => exact sound.single
  | dispatch position part chunk flight state found ready early taken flies =>
    rw [List.map_append, List.nodup_append]
    refine ⟨sound.single, List.pairwise_singleton _ _, fun other member same isSame together => ?_⟩
    -- Whatever is in the air has a part that waits for it, and this one is ready.
    cases List.mem_singleton.mp isSame
    obtain ⟨call, isAloft, here⟩ := List.mem_map.mp member
    obtain ⟨busy, isThere, sending⟩ := sound.aloft call isAloft
    rw [here, together, found] at isThere
    cases isThere
    rw [ready] at sending
    cases sending
  | land call part chunk landing state aloft found sending due lands => exact filtered call.part
  | cut position part chunk found sending late => exact filtered position
  | pass nanoseconds waits may => exact sound.single
  | conclude conclusion unconcluded now => exact sound.single

private theorem Moves.due (moves : Moves sink before after) (sound : before.Sound origin) :
    ∀ call ∈ after.airborne, after.writing.clock ≤ call.due := by
  have filtered : ∀ position,
      ∀ call ∈ before.airborne.filter (fun other => other.part ≠ position),
        before.writing.clock ≤ call.due :=
    fun position call member => sound.due call (List.mem_filter.mp member).1
  cases moves with
  | shift position part next found shift => exact sound.due
  | dispatch position part chunk flight state found ready early taken flies =>
    intro call member
    rcases List.mem_append.mp member with old | new
    · exact sound.due call old
    · cases List.mem_singleton.mp new
      exact Nat.le_add_right _ _
  | land call part chunk landing state aloft found sending due lands => exact filtered call.part
  | cut position part chunk found sending late => exact filtered position
  | pass nanoseconds waits may => exact waits
  | conclude conclusion unconcluded now => exact sound.due

private theorem Moves.soon (moves : Moves sink before after) (sound : before.Sound origin) :
    ∀ call ∈ after.airborne, call.due ≤ after.writing.clock + call.flight.delay := by
  have filtered : ∀ position,
      ∀ call ∈ before.airborne.filter (fun other => other.part ≠ position),
        call.due ≤ before.writing.clock + call.flight.delay :=
    fun position call member => sound.soon call (List.mem_filter.mp member).1
  cases moves with
  | shift position part next found shift => exact sound.soon
  | dispatch position part chunk flight state found ready early taken flies =>
    intro call member
    rcases List.mem_append.mp member with old | new
    · exact sound.soon call old
    · cases List.mem_singleton.mp new
      exact Nat.le_refl _
  | land call part chunk landing state aloft found sending due lands => exact filtered call.part
  | cut position part chunk found sending late => exact filtered position
  | pass nanoseconds waits may =>
    intro call member
    exact (sound.soon call member).trans
      (Nat.add_le_add_right (Nat.le_add_right _ nanoseconds) _)
  | conclude conclusion unconcluded now => exact sound.soon

private theorem Moves.clock (moves : Moves sink before after) (sound : before.Sound origin) :
    after.writing.clock ≤ after.writing.deadline ∨
      after.writing.conclusion ≠ none ∧ after.airborne = [] := by
  cases moves with
  | shift position part next found shift => exact sound.clock
  | dispatch position part chunk flight state found ready early taken flies =>
    exact .inl (Nat.le_of_lt early)
  | land call part chunk landing state aloft found sending due lands =>
    refine sound.clock.imp id fun past => ?_
    rw [past.2] at aloft
    exact absurd aloft List.not_mem_nil
  | cut position part chunk found sending late =>
    refine sound.clock.imp id fun past => ⟨past.1, ?_⟩
    simp [past.2]
  | pass nanoseconds waits may =>
    simp only [Writing.mayPass, Bool.or_eq_true, decide_eq_true_eq, Bool.and_eq_true,
      List.all_eq_true] at may
    -- Behind the deadline time passes only when no part waits for a call.
    refine may.imp id fun past => ⟨Option.isSome_iff_ne_none.mp past.1, ?_⟩
    refine List.eq_nil_iff_forall_not_mem.mpr fun call member => ?_
    obtain ⟨part, found, sending⟩ := sound.aloft call member
    simpa [Partition.isRunning, sending] using past.2 part (List.mem_of_getElem? found)
  | conclude conclusion unconcluded now => exact sound.clock.imp id fun past => ⟨by simp, past.2⟩

theorem Moves.sound (moves : Moves sink before after) (fresh : origin.Fresh)
    (sound : before.Sound origin) : after.Sound origin where
  toFrame := sound.toFrame.trans moves.frame
  parts := by
    have positive : 0 < before.writing.batchSize := sound.batchSize ▸ fresh.sends
    rw [moves.frame.batchSize]
    exact moves.parts sound positive
  aloft := moves.aloft sound
  awaited := moves.awaited sound
  single := moves.single sound
  due := moves.due sound
  soon := moves.soon sound
  clock := moves.clock sound

theorem Sound.course (sound : before.Sound origin) (fresh : origin.Fresh)
    (course : Course sink before after) : after.Sound origin := by
  induction course with
  | refl => exact sound
  | tail _ moves inductionHypothesis => exact moves.sound fresh inductionHypothesis

/-- **The invariant holds on every course.** -/
theorem sound_of_course (fresh : origin.Fresh) (course : Course sink (new origin) logged) :
    logged.Sound origin :=
  (sound_new fresh).course fresh course

end Logged

end RepoVitals.Bulk

import RepoVitals.Proofs.Bulk.Cover
import RepoVitals.Proofs.Bulk.Logbook
/-!
Parts: what is always true of one part of a write.

Owns:
- `Partition.Sound`, which ties the progress of a part to its documents and to its account;
- its preservation by everything that can happen to a part.

The documents that no call has taken are always those behind `requests` whole sub-batches, and the
account always balances with what is still pending.
-/

namespace RepoVitals.Bulk

open Sink (Landing)

namespace Partition

/-- How many documents of a part have no verdict yet, or never will. -/
def pending (part : Partition) : Nat :=
  match part.progress with
  | .sending chunk => chunk.length + part.unsent.length
  | .abandoned documents => documents
  | _ => part.unsent.length

/-- What is always true of a part. -/
structure Sound (batchSize : Nat) (part : Partition) : Prop where
  holds : part.documents ≠ []
  unsent : part.unsent = part.documents.drop (part.tally.requests * batchSize)
  barely : part.tally.requests * batchSize < part.documents.length + batchSize
  untouched : part.progress = .waiting ∨ part.progress = .queued → part.tally = .zero
  ready : part.progress = .ready → part.unsent ≠ []
  finished : part.progress = .finished → part.unsent = []
  sending : ∀ chunk, part.progress = .sending chunk →
    chunk ≠ [] ∧ part.tally.failedRequests < part.tally.requests
  abandoned : ∀ documents, part.progress = .abandoned documents → 0 < documents
  failedRequests_le : part.tally.failedRequests ≤ part.tally.requests
  balance : part.progress ≠ .panicked →
    part.tally.succeeded + part.tally.failed + part.pending = part.documents.length

variable {batchSize : Nat} {part next : Partition} {chunk : List Entry}

/-! ### Nobody has worked on it -/

theorem sound_new {documents : List Entry} (positive : 0 < batchSize) (holds : documents ≠ []) :
    (new documents).Sound batchSize where
  holds := holds
  unsent := by simp [new, Tally.zero]
  barely := by
    simp only [new, Tally.zero, Nat.zero_mul]
    omega
  untouched _ := rfl
  ready := by simp [new]
  finished := by simp [new]
  sending := by simp [new]
  abandoned := by simp [new]
  failedRequests_le := Nat.le_refl _
  balance _ := by simp [new, Tally.zero, pending]

theorem Sound.unsent_of_untouched (sound : part.Sound batchSize)
    (untouched : part.progress = .waiting ∨ part.progress = .queued) :
    part.unsent = part.documents := by
  rw [sound.unsent, sound.untouched untouched]
  simp [Tally.zero]

/-! ### The worker goes on -/

theorem progress_proceed (part : Partition) :
    part.proceed.progress = if part.unsent = [] then .finished else .ready := by
  simp [proceed]

theorem pending_proceed (part : Partition) : part.proceed.pending = part.unsent.length := by
  rw [pending, progress_proceed]
  by_cases isEmpty : part.unsent = []
  · rw [if_pos isEmpty]
    rfl
  · rw [if_neg isEmpty]
    rfl

/-- A worker that goes on needs an account that balances with the documents left. -/
theorem sound_proceed
    (holds : part.documents ≠ [])
    (unsent : part.unsent = part.documents.drop (part.tally.requests * batchSize))
    (barely : part.tally.requests * batchSize < part.documents.length + batchSize)
    (failedRequests_le : part.tally.failedRequests ≤ part.tally.requests)
    (balance : part.tally.succeeded + part.tally.failed + part.unsent.length =
      part.documents.length) :
    part.proceed.Sound batchSize where
  holds := holds
  unsent := unsent
  barely := barely
  untouched := by
    rw [progress_proceed]
    split <;> simp
  ready := by
    rw [progress_proceed]
    split <;> simp_all [proceed]
  finished := by
    rw [progress_proceed]
    split <;> simp_all [proceed]
  sending := by
    rw [progress_proceed]
    split <;> simp
  abandoned := by
    rw [progress_proceed]
    split <;> simp
  failedRequests_le := failedRequests_le
  balance _ := by
    rw [pending_proceed]
    exact balance

namespace Sound

theorem shift {writing : Writing} (sound : part.Sound batchSize)
    (shift : part.Shift writing next) : next.Sound batchSize := by
  cases shift with
  | accepted waits unconcluded =>
    have balance := sound.balance (by simp [waits])
    simp only [pending, waits] at balance
    exact { sound with
      untouched := fun _ => sound.untouched (.inl waits)
      ready := by simp
      finished := by simp
      sending := by simp
      abandoned := by simp
      balance := fun _ => balance }
  | taken queued =>
    have balance := sound.balance (by simp [queued])
    simp only [pending, queued] at balance
    exact sound_proceed sound.holds sound.unsent sound.barely sound.failedRequests_le balance
  | stopped ready late =>
    have balance := sound.balance (by simp [ready])
    simp only [pending, ready] at balance
    exact { sound with
      untouched := by simp
      ready := by simp
      finished := by simp
      sending := by simp
      abandoned := by
        simp only [Progress.abandoned.injEq, forall_eq']
        exact List.length_pos_iff.mpr (sound.ready ready)
      balance := fun _ => balance }

/-- A call takes a whole sub-batch off the documents left, or all of them. -/
theorem dispatch (sound : part.Sound batchSize) (positive : 0 < batchSize)
    (ready : part.progress = .ready) : (part.dispatch batchSize).Sound batchSize := by
  have some := sound.ready ready
  have inside : part.tally.requests * batchSize < part.documents.length := by
    have drops := sound.unsent ▸ some
    simpa using drops
  have balance := sound.balance (by simp [ready])
  simp only [pending, ready] at balance
  exact {
    holds := sound.holds
    unsent := by
      simp only [Partition.dispatch, Tally.add, sound.unsent, List.drop_drop, Nat.succ_mul]
    barely := by
      simp only [Partition.dispatch, Tally.add, Nat.succ_mul]
      omega
    untouched := by simp [Partition.dispatch]
    ready := by simp [Partition.dispatch]
    finished := by simp [Partition.dispatch]
    sending := by
      intro chunk sending
      cases sending
      have emptyOnly : part.unsent.take batchSize = [] → part.unsent = [] := by
        intro isEmpty
        rcases List.take_eq_nil_iff.mp isEmpty with zero | isEmpty
        · omega
        · exact isEmpty
      exact ⟨fun isEmpty => some (emptyOnly isEmpty), Nat.lt_succ_of_le sound.failedRequests_le⟩
    abandoned := by simp [Partition.dispatch]
    failedRequests_le := Nat.le_succ_of_le sound.failedRequests_le
    balance := fun _ => by
      simp only [Partition.dispatch, Tally.add, pending, List.length_take, List.length_drop]
      omega }

/-- An answer gives every document of its call a verdict. -/
theorem landed {landing : Landing} (sound : part.Sound batchSize)
    (sending : part.progress = .sending chunk) : (part.landed chunk landing).Sound batchSize := by
  have balance := sound.balance (by simp [sending])
  simp only [pending, sending] at balance
  have fewer := (sound.sending chunk sending).2
  cases landing with
  | answered outcome =>
    have counted : (Tally.ofAnswer chunk.length outcome).requests = 0 ∧
        (Tally.ofAnswer chunk.length outcome).succeeded +
          (Tally.ofAnswer chunk.length outcome).failed = chunk.length ∧
        (Tally.ofAnswer chunk.length outcome).failedRequests ≤ 1 := by
      cases outcome with
      | ok verdicts =>
        refine ⟨rfl, ?_, Nat.zero_le _⟩
        have atMost : Tally.storedOf chunk.length verdicts ≤ chunk.length := Nat.min_le_right _ _
        simp only [Tally.ofAnswer]
        omega
      | error failure => exact ⟨rfl, Nat.zero_add _, Nat.le_refl _⟩
    obtain ⟨noRequest, allCounted, atMostOne⟩ := counted
    refine sound_proceed sound.holds ?_ ?_ ?_ ?_ <;>
      simp only [Tally.add, noRequest, Nat.add_zero]
    · exact sound.unsent
    · exact sound.barely
    · omega
    · omega
  | panicked =>
    exact { sound with
      untouched := by simp [Partition.landed]
      ready := by simp [Partition.landed]
      finished := by simp [Partition.landed]
      sending := by simp [Partition.landed]
      abandoned := by simp [Partition.landed]
      balance := by simp [Partition.landed] }

/-- What the deadline cuts off stays pending. -/
theorem cut (sound : part.Sound batchSize) (sending : part.progress = .sending chunk) :
    Sound batchSize
      { part with progress := .abandoned (chunk.length + part.unsent.length) } := by
  have balance := sound.balance (by simp [sending])
  simp only [pending, sending] at balance
  exact { sound with
    untouched := by simp
    ready := by simp
    finished := by simp
    sending := by simp
    abandoned := by
      simp only [Progress.abandoned.injEq, forall_eq']
      exact Nat.add_pos_left (List.length_pos_iff.mpr (sound.sending chunk sending).1) _
    balance := fun _ => balance }

/-- A part that is through has made one call for every sub-batch. -/
theorem requests_of_finished (sound : part.Sound batchSize) (positive : 0 < batchSize)
    (finished : part.progress = .finished) :
    part.tally.requests = ceilDiv part.documents.length batchSize := by
  have none := sound.unsent ▸ sound.finished finished
  exact (ceilDiv_eq_of_reaches positive (List.drop_eq_nil_iff.mp none) sound.barely).symm

end Sound

end Partition

end RepoVitals.Bulk

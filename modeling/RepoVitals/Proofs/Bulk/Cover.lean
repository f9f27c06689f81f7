import RepoVitals.Bulk.Partition
/-!
Cover: the ranges of a partition, end to end, are the whole batch.

Owns:
- the order of the quotient rounded up, which is all that proofs need to know of it;
- the bounds of the ranges, and the lengths of the slices that they cut;
- `flatMap_slice_partition`: the slices of all ranges, one after the other, are the list.

Does not own the balance of the ranges.
-/

namespace RepoVitals.Bulk

/-! ### The quotient rounded up -/

/-- The quotient rounded up is the least number of divisors that reaches the value. -/
theorem ceilDiv_le_iff {value divisor : Nat} (positive : 0 < divisor) (bound : Nat) :
    ceilDiv value divisor ≤ bound ↔ value ≤ bound * divisor := by
  have quotient := Nat.div_add_mod value divisor
  have remainder := Nat.mod_lt value positive
  rw [Nat.mul_comm bound]
  unfold ceilDiv
  constructor
  · intro below
    have reached := Nat.mul_le_mul_left divisor below
    rw [Nat.mul_add] at reached
    split at reached <;> omega
  · intro reached
    split
    · rw [Nat.add_zero]
      exact Nat.le_of_mul_le_mul_left (by omega) positive
    · exact Nat.lt_of_mul_lt_mul_left (a := divisor) (by omega)

theorem ceilDiv_eq_of_reaches {value divisor count : Nat} (positive : 0 < divisor)
    (reaches : value ≤ count * divisor) (barely : count * divisor < value + divisor) :
    ceilDiv value divisor = count := by
  refine Nat.le_antisymm ((ceilDiv_le_iff positive count).mpr reaches) ?_
  have reached := (ceilDiv_le_iff positive (ceilDiv value divisor)).mp (Nat.le_refl _)
  refine Nat.le_of_not_lt fun fewer => ?_
  have step : (ceilDiv value divisor + 1) * divisor ≤ count * divisor :=
    Nat.mul_le_mul_right divisor fewer
  rw [Nat.succ_mul] at step
  omega

theorem ceilDiv_le_self (value : Nat) {divisor : Nat} (positive : 0 < divisor) :
    ceilDiv value divisor ≤ value :=
  (ceilDiv_le_iff positive value).mpr (Nat.le_mul_of_pos_right value positive)

/-! ### Slices -/

section Slices

variable {α : Type}

/-- The ranges from `start` on cut a contiguous part off the list, `longer` of them one longer. -/
theorem flatMap_slice_rangesFrom (elements : List α) (base count longer start : Nat) :
    (rangesFrom base count longer start).flatMap (fun range => range.slice elements) =
      (elements.drop start).take (count * base + min longer count) := by
  induction count generalizing longer start with
  | zero => simp [rangesFrom]
  | succ count inductionHypothesis =>
    have first : start + base + (if 0 < longer then 1 else 0) - start =
        base + (if 0 < longer then 1 else 0) := by omega
    have total : (count + 1) * base + min longer (count + 1) =
        (base + if 0 < longer then 1 else 0) + (count * base + min (longer - 1) count) := by
      rw [Nat.succ_mul]
      split <;> omega
    -- The first range takes its share off the front; the others cut what is behind it.
    rw [rangesFrom, List.flatMap_cons, total, List.take_add, List.drop_drop, inductionHypothesis]
    simp only [Range.slice, Range.length, first, ← Nat.add_assoc]

theorem bounds_of_mem_rangesFrom {base count longer start : Nat} {range : Range}
    (member : range ∈ rangesFrom base count longer start) :
    base ≤ range.length ∧ range.stop ≤ start + (count * base + min longer count) := by
  induction count generalizing longer start with
  | zero => simp [rangesFrom] at member
  | succ count inductionHypothesis =>
    rw [Nat.succ_mul]
    rcases List.mem_cons.mp member with same | later
    · subst same
      simp only [Range.length]
      split <;> omega
    · have bounds := inductionHypothesis later
      refine ⟨bounds.1, Nat.le_trans bounds.2 ?_⟩
      split <;> omega

end Slices

/-! ### The partition -/

theorem partitionCount_pos (length parallelism batchSize : Nat) :
    0 < partitionCount length parallelism batchSize := by
  unfold partitionCount
  omega

theorem partitionCount_le {length : Nat} (parallelism batchSize : Nat) (some : 0 < length) :
    partitionCount length parallelism batchSize ≤ length := by
  have calls := ceilDiv_le_self length (show 0 < max 1 batchSize by omega)
  unfold partitionCount
  omega

theorem partition_total (length count : Nat) (positive : 0 < count) :
    count * (length / count) + min (length % count) count = length := by
  have remainder := Nat.mod_lt length positive
  rw [Nat.min_eq_left (Nat.le_of_lt remainder)]
  exact Nat.div_add_mod length count

/-- The slices of all ranges, one after the other, are the whole list. -/
theorem flatMap_slice_partition {α : Type} (elements : List α) (parallelism batchSize : Nat) :
    (partition elements.length parallelism batchSize).flatMap
      (fun range => range.slice elements) = elements := by
  unfold partition
  split
  · rename_i none
    simpa using (List.length_eq_zero_iff.mp none).symm
  · rw [flatMap_slice_rangesFrom, partition_total _ _ (partitionCount_pos ..)]
    simp

/-- Every range holds a document and lies inside the batch. -/
theorem bounds_of_mem_partition {length parallelism batchSize : Nat} {range : Range}
    (member : range ∈ partition length parallelism batchSize) :
    0 < range.length ∧ range.stop ≤ length := by
  unfold partition at member
  split at member
  · simp at member
  · rename_i some
    have bounds := bounds_of_mem_rangesFrom member
    rw [partition_total _ _ (partitionCount_pos ..), Nat.zero_add] at bounds
    have whole := Nat.div_pos
      (partitionCount_le parallelism batchSize (Nat.pos_of_ne_zero some))
      (partitionCount_pos length parallelism batchSize)
    exact ⟨Nat.lt_of_lt_of_le whole bounds.1, bounds.2⟩

theorem length_slice {α : Type} {range : Range} {elements : List α}
    (inside : range.stop ≤ elements.length) :
    (range.slice elements).length = range.length := by
  simp only [Range.slice, Range.length, List.length_take, List.length_drop]
  omega

end RepoVitals.Bulk

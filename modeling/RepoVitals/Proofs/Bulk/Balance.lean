import RepoVitals.Proofs.Bulk.Cover
/-!
Balance: a batch is cut into ranges of nearly one length, whatever its length and the knobs.

Owns:
- `Consecutive`: ranges that are not empty and follow each other from one position to another, so
  that every position between is in exactly one of them;
- the lengths of the ranges of a cut, the longer ones first;
- the cut in words of 64 bits, where a sum that needs more bits and a division by zero have no
  result;
- `partition_balanced`: the cut in words always has a result, and it is a balanced exact cover.

A list of ranges may be of any length here; whether it fits in memory is nobody's question.
-/

namespace RepoVitals.Bulk

/-! ### Consecutive ranges -/

/-- The ranges lead from `start` to `stop` without gaps, and none of them is empty. -/
def Consecutive (start stop : Nat) : List Range → Prop
  | [] => start = stop
  | range :: rest => range.start = start ∧ start < range.stop ∧ Consecutive range.stop stop rest

/-- The position is in the range. -/
def Range.holds (range : Range) (position : Nat) : Bool :=
  range.start ≤ position && position < range.stop

theorem Range.holds_iff {range : Range} {position : Nat} :
    range.holds position = true ↔ range.start ≤ position ∧ position < range.stop := by
  rw [holds, Bool.and_eq_true, decide_eq_true_iff, decide_eq_true_iff]

namespace Consecutive

variable {start stop : Nat} {ranges : List Range}

theorem le (consecutive : Consecutive start stop ranges) : start ≤ stop := by
  induction ranges generalizing start with
  | nil => exact Nat.le_of_eq consecutive
  | cons range rest inductionHypothesis =>
    obtain ⟨-, grows, later⟩ := consecutive
    exact Nat.le_trans (Nat.le_of_lt grows) (inductionHypothesis later)

/-- Every position between start and stop is in exactly one range, and no other position is in
any. -/
theorem countP_holds (consecutive : Consecutive start stop ranges) (position : Nat) :
    ranges.countP (fun range => range.holds position) =
      if start ≤ position ∧ position < stop then 1 else 0 := by
  induction ranges generalizing start with
  | nil =>
    cases (consecutive : start = stop)
    rw [List.countP_nil, if_neg (by omega)]
  | cons range rest inductionHypothesis =>
    obtain ⟨starts, grows, later⟩ := consecutive
    have behind := later.le
    rw [List.countP_cons, inductionHypothesis later]
    simp only [Range.holds_iff, starts]
    by_cases here : start ≤ position ∧ position < range.stop
    · rw [if_pos here, if_neg (by omega), if_pos (by omega)]
    · rw [if_neg here, Nat.add_zero]
      by_cases between : start ≤ position ∧ position < stop
      · rw [if_pos between, if_pos (by omega)]
      · rw [if_neg between, if_neg (by omega)]

end Consecutive

/-! ### The ranges of a cut -/

section RangesFrom

variable {base : Nat}

theorem length_rangesFrom (count longer start : Nat) :
    (rangesFrom base count longer start).length = count := by
  induction count generalizing longer start with
  | zero => rfl
  | succ count inductionHypothesis =>
    rw [rangesFrom, List.length_cons, inductionHypothesis]

theorem consecutive_rangesFrom (positive : 0 < base) (count longer start : Nat) :
    Consecutive start (start + (count * base + min longer count))
      (rangesFrom base count longer start) := by
  induction count generalizing longer start with
  | zero => simp [rangesFrom, Consecutive]
  | succ count inductionHypothesis =>
    have total : start + ((count + 1) * base + min longer (count + 1)) =
        start + base + (if 0 < longer then 1 else 0) + (count * base + min (longer - 1) count) := by
      rw [Nat.succ_mul]
      split <;> omega
    rw [total]
    exact ⟨rfl, Nat.lt_of_lt_of_le (Nat.lt_add_of_pos_right positive) (Nat.le_add_right _ _),
      inductionHypothesis _ _⟩

/-- No range is longer than the first one can be. -/
theorem length_le_of_mem_rangesFrom
    {count longer start : Nat}
    {range : Range}
    (member : range ∈ rangesFrom base count longer start) :
    range.length ≤ base + if 0 < longer then 1 else 0 := by
  induction count generalizing longer start with
  | zero => cases member
  | succ count inductionHypothesis =>
    rcases List.mem_cons.mp member with rfl | later
    · simp only [Range.length]
      omega
    · refine Nat.le_trans (inductionHypothesis later) (Nat.add_le_add_left ?_ base)
      split <;> split <;> omega

theorem pairwise_length_rangesFrom (count longer start : Nat) :
    (rangesFrom base count longer start).Pairwise
      (fun first second => second.length ≤ first.length) := by
  induction count generalizing longer start with
  | zero => exact List.Pairwise.nil
  | succ count inductionHypothesis =>
    refine List.Pairwise.cons (fun range later => ?_) (inductionHypothesis _ _)
    have bound := length_le_of_mem_rangesFrom later
    simp only [Range.length] at bound ⊢
    split at bound <;> split <;> omega

end RangesFrom

/-! ### The cut in words -/

namespace Words

/-- A sum, if it fits in a word. -/
def add? (first second : UInt64) : Option UInt64 :=
  if first.toNat + second.toNat < UInt64.size then some (first + second) else none

/-- A quotient, unless the divisor is zero. -/
def div? (value divisor : UInt64) : Option UInt64 :=
  if divisor = 0 then none else some (value / divisor)

/-- A remainder, unless the divisor is zero. -/
def mod? (value divisor : UInt64) : Option UInt64 :=
  if divisor = 0 then none else some (value % divisor)

/-- The quotient rounded up. -/
def ceilDiv? (value divisor : UInt64) : Option UInt64 := do
  let quotient ← div? value divisor
  let remainder ← mod? value divisor
  if 0 < remainder then add? quotient 1 else some quotient

/-- The greater of two words. -/
def larger (first second : UInt64) : UInt64 := if first < second then second else first

/-- The smaller of two words. -/
def smaller (first second : UInt64) : UInt64 := if second < first then second else first

/-- So many more ranges from `start` on, the first of which has the number `index`; the numbers
below `remainder` have one position more. -/
def rangesFrom? (base remainder : UInt64) :
    (rounds : Nat) → (index start : UInt64) → Option (List (UInt64 × UInt64))
  | 0, _, _ => some []
  | rounds + 1, index, start => do
    let size ← add? base (if index < remainder then 1 else 0)
    let stop ← add? start size
    let next ← add? index 1
    return (start, stop) :: (← rangesFrom? base remainder rounds next stop)

/-- The cut of a batch. -/
def partition? (length parallelism batchSize : UInt64) : Option (List (UInt64 × UInt64)) :=
  if length = 0 then some []
  else do
    let calls ← ceilDiv? length (larger batchSize 1)
    let count := larger (smaller (larger parallelism 1) calls) 1
    let base ← div? length count
    let remainder ← mod? length count
    rangesFrom? base remainder count.toNat 0 0

/-- The range between two words. -/
def toRange (words : UInt64 × UInt64) : Range := ⟨words.1.toNat, words.2.toNat⟩

theorem add?_eq (first second : UInt64) (fits : first.toNat + second.toNat < UInt64.size) :
    ∃ sum, add? first second = some sum ∧ sum.toNat = first.toNat + second.toNat := by
  refine ⟨first + second, if_pos fits, ?_⟩
  rw [UInt64.toNat_add]
  exact Nat.mod_eq_of_lt fits

theorem div?_eq (value divisor : UInt64) (positive : 0 < divisor.toNat) :
    ∃ quotient, div? value divisor = some quotient ∧
      quotient.toNat = value.toNat / divisor.toNat := by
  refine ⟨value / divisor, if_neg ?_, UInt64.toNat_div value divisor⟩
  rintro rfl
  exact Nat.lt_irrefl 0 positive

theorem mod?_eq (value divisor : UInt64) (positive : 0 < divisor.toNat) :
    ∃ remainder, mod? value divisor = some remainder ∧
      remainder.toNat = value.toNat % divisor.toNat := by
  refine ⟨value % divisor, if_neg ?_, UInt64.toNat_mod value divisor⟩
  rintro rfl
  exact Nat.lt_irrefl 0 positive

theorem toNat_larger (first second : UInt64) :
    (larger first second).toNat = max first.toNat second.toNat := by
  rw [larger]
  split <;> rename_i order <;> rw [UInt64.lt_iff_toNat_lt] at order <;> omega

theorem toNat_smaller (first second : UInt64) :
    (smaller first second).toNat = min first.toNat second.toNat := by
  rw [smaller]
  split <;> rename_i order <;> rw [UInt64.lt_iff_toNat_lt] at order <;> omega

theorem ceilDiv?_eq (value divisor : UInt64) (positive : 0 < divisor.toNat) :
    ∃ quotient, ceilDiv? value divisor = some quotient ∧
      quotient.toNat = ceilDiv value.toNat divisor.toNat := by
  obtain ⟨quotient, isQuotient, quotientIs⟩ := div?_eq value divisor positive
  obtain ⟨remainder, isRemainder, remainderIs⟩ := mod?_eq value divisor positive
  -- The quotient rounded up is not greater than the value, so one more than the quotient fits.
  have atMost := ceilDiv_le_self value.toNat positive
  have fits := value.toNat_lt
  simp only [ceilDiv?, isQuotient, isRemainder, Option.bind_eq_bind, Option.bind_some]
  unfold ceilDiv at atMost ⊢
  rw [← quotientIs, ← remainderIs] at atMost ⊢
  by_cases isWhole : remainder.toNat = 0
  · have nothing : ¬0 < remainder := by
      rw [UInt64.lt_iff_toNat_lt, isWhole]
      exact Nat.lt_irrefl 0
    rw [if_neg nothing, if_pos isWhole]
    exact ⟨quotient, rfl, rfl⟩
  · have something : 0 < remainder := UInt64.lt_iff_toNat_lt.mpr (Nat.pos_of_ne_zero isWhole)
    rw [if_neg isWhole] at atMost ⊢
    rw [if_pos something]
    exact add?_eq quotient 1 (Nat.lt_of_le_of_lt atMost fits)

/-- As long as the end of the last range fits in a word, so do all sums of the loop. -/
theorem rangesFrom?_eq
    {base remainder : UInt64}
    {rounds : Nat}
    {index start : UInt64}
    (counted : index.toNat + rounds < UInt64.size)
    (fits : start.toNat + (rounds * base.toNat + min (remainder.toNat - index.toNat) rounds) <
      UInt64.size) :
    ∃ ranges, rangesFrom? base remainder rounds index start = some ranges ∧
      ranges.map toRange =
        rangesFrom base.toNat rounds (remainder.toNat - index.toNat) start.toNat := by
  induction rounds generalizing index start with
  | zero => exact ⟨[], rfl, rfl⟩
  | succ rounds inductionHypothesis =>
    rw [Nat.succ_mul] at fits
    have extra : (if index < remainder then (1 : UInt64) else 0).toNat =
        if 0 < remainder.toNat - index.toNat then 1 else 0 := by
      by_cases isLonger : index < remainder
      · rw [if_pos isLonger, if_pos (Nat.sub_pos_of_lt (UInt64.lt_iff_toNat_lt.mp isLonger))]
        rfl
      · rw [if_neg isLonger, if_neg (by rw [UInt64.lt_iff_toNat_lt] at isLonger; omega)]
        rfl
    obtain ⟨size, isSize, sizeIs⟩ :=
      add?_eq base (if index < remainder then 1 else 0) (by rw [extra]; split <;> omega)
    rw [extra] at sizeIs
    obtain ⟨stop, isStop, stopIs⟩ := add?_eq start size (by rw [sizeIs]; split <;> omega)
    obtain ⟨next, isNext, nextIs⟩ := add?_eq index 1 (show index.toNat + 1 < UInt64.size by omega)
    have nextIs : next.toNat = index.toNat + 1 := nextIs
    have counted' : next.toNat + rounds < UInt64.size := by omega
    have fits' : stop.toNat + (rounds * base.toNat + min (remainder.toNat - next.toNat) rounds) <
        UInt64.size := by
      rw [stopIs, sizeIs, nextIs]
      split <;> omega
    obtain ⟨ranges, areRanges, rangesAre⟩ := inductionHypothesis counted' fits'
    refine ⟨(start, stop) :: ranges, ?_, ?_⟩
    · simp only [rangesFrom?, isSize, isStop, isNext, areRanges, Option.bind_eq_bind,
        Option.bind_some, Option.pure_def]
    · rw [List.map_cons, rangesAre, rangesFrom, toRange, stopIs, sizeIs, nextIs, Nat.sub_sub,
        Nat.add_assoc]

/-- The cut in words needs no more than words, and is the cut. -/
theorem partition?_eq (length parallelism batchSize : UInt64) :
    ∃ ranges, partition? length parallelism batchSize = some ranges ∧
      ranges.map toRange = partition length.toNat parallelism.toNat batchSize.toNat := by
  unfold partition? partition
  by_cases isEmpty : length = 0
  · rw [if_pos isEmpty, if_pos (by rw [isEmpty]; rfl)]
    exact ⟨[], rfl, rfl⟩
  · have holdsSome : length.toNat ≠ 0 := fun isZero => isEmpty (UInt64.toNat_inj.mp isZero)
    rw [if_neg isEmpty, if_neg holdsSome]
    have documents : (larger batchSize 1).toNat = max 1 batchSize.toNat :=
      (toNat_larger batchSize 1).trans (Nat.max_comm _ _)
    obtain ⟨calls, areCalls, callsAre⟩ :=
      ceilDiv?_eq length (larger batchSize 1) (by rw [documents]; omega)
    have countIs : (larger (smaller (larger parallelism 1) calls) 1).toNat =
        partitionCount length.toNat parallelism.toNat batchSize.toNat := by
      rw [toNat_larger, toNat_smaller, toNat_larger, callsAre, documents, partitionCount,
        Nat.max_comm, Nat.max_comm parallelism.toNat]
      rfl
    generalize isCount : larger (smaller (larger parallelism 1) calls) 1 = count at countIs
    have positive := partitionCount_pos length.toNat parallelism.toNat batchSize.toNat
    have total := partition_total length.toNat _ positive
    obtain ⟨base, isBase, baseIs⟩ := div?_eq length count (by omega)
    obtain ⟨remainder, isRemainder, remainderIs⟩ :=
      mod?_eq length count (by omega)
    rw [countIs] at baseIs remainderIs
    -- The last range ends at the length, which is a word.
    have counted : (0 : UInt64).toNat + count.toNat < UInt64.size := by
      rw [UInt64.toNat_zero, Nat.zero_add]
      exact count.toNat_lt
    have fits : (0 : UInt64).toNat + (count.toNat * base.toNat +
        min (remainder.toNat - (0 : UInt64).toNat) count.toNat) < UInt64.size := by
      rw [UInt64.toNat_zero, Nat.zero_add, Nat.sub_zero, baseIs, remainderIs, countIs, total]
      exact length.toNat_lt
    obtain ⟨ranges, areRanges, rangesAre⟩ := rangesFrom?_eq counted fits
    refine ⟨ranges, ?_, ?_⟩
    · simp only [areCalls, isCount, isBase, isRemainder, areRanges, Option.bind_eq_bind,
        Option.bind_some]
    · rw [rangesAre, baseIs, remainderIs, countIs]
      rfl

end Words

/-! ### Balance -/

/-- How many calls a batch needs: the number of whole batch sizes that reach its length. -/
def callsNeeded (length batchSize : Nat) : Nat :=
  (length + (max 1 batchSize - 1)) / max 1 batchSize

theorem ceilDiv_eq_callsNeeded (length batchSize : Nat) :
    ceilDiv length (max 1 batchSize) = callsNeeded length batchSize := by
  have positive : 0 < max 1 batchSize := by omega
  have whole := Nat.div_add_mod (length + (max 1 batchSize - 1)) (max 1 batchSize)
  have partial' := Nat.mod_lt (length + (max 1 batchSize - 1)) positive
  rw [Nat.mul_comm] at whole
  apply ceilDiv_eq_of_reaches positive <;> rw [callsNeeded] <;> omega

/-- Ranges that cut a batch into nearly equal parts. -/
structure BalancedCover (length parallelism batchSize : Nat) (ranges : List Range) : Prop where
  /-- From zero to the length without gaps, no range being empty. -/
  consecutive : Consecutive 0 length ranges
  once : ∀ position,
    ranges.countP (fun range => range.holds position) = if position < length then 1 else 0
  count : ranges.length =
    if length = 0 then 0 else max 1 (min (max 1 parallelism) (callsNeeded length batchSize))
  descending : ranges.Pairwise (fun first second => second.length ≤ first.length)
  level : ∀ first ∈ ranges, ∀ second ∈ ranges, first.length ≤ second.length + 1
  /-- With enough parallelism for one call per range. -/
  small : callsNeeded length batchSize ≤ parallelism →
    ∀ range ∈ ranges, range.length ≤ max 1 batchSize

theorem balancedCover_partition (length parallelism batchSize : Nat) :
    BalancedCover length parallelism batchSize (partition length parallelism batchSize) := by
  by_cases isEmpty : length = 0
  · subst isEmpty
    exact ⟨rfl, fun _ => rfl, rfl, List.Pairwise.nil, nofun, fun _ => nofun⟩
  · let count := partitionCount length parallelism batchSize
    have isCut : partition length parallelism batchSize =
        rangesFrom (length / count) count (length % count) 0 := if_neg isEmpty
    have positive : 0 < count := partitionCount_pos length parallelism batchSize
    have whole : 0 < length / count := Nat.div_pos
      (partitionCount_le parallelism batchSize (Nat.pos_of_ne_zero isEmpty)) positive
    have consecutive := consecutive_rangesFrom whole count (length % count) 0
    rw [partition_total length count positive, Nat.zero_add] at consecutive
    rw [isCut]
    exact {
      consecutive := consecutive
      once := fun position => by
        rw [consecutive.countP_holds]
        simp
      count := by
        rw [length_rangesFrom, if_neg isEmpty, ← ceilDiv_eq_callsNeeded]
        rfl
      descending := pairwise_length_rangesFrom _ _ _
      level := fun first isFirst second isSecond => by
        have upper := length_le_of_mem_rangesFrom isFirst
        have lower := (bounds_of_mem_rangesFrom isSecond).1
        split at upper <;> omega
      small := fun enough range member => by
        have isLonger : range.length ≤ ceilDiv length count := by
          have upper := length_le_of_mem_rangesFrom member
          unfold ceilDiv
          split at upper <;> split <;> omega
        refine Nat.le_trans isLonger ((ceilDiv_le_iff positive _).mpr ?_)
        rw [Nat.mul_comm]
        have calls : ceilDiv length (max 1 batchSize) ≤ count := by
          rw [← ceilDiv_eq_callsNeeded] at enough
          show _ ≤ max 1 (min (max 1 parallelism) (ceilDiv length (max 1 batchSize)))
          omega
        exact (ceilDiv_le_iff (by omega) _).mp calls }

/-- **A batch is cut evenly at every size.**  For all lengths and knobs that are words of 64 bits,
no sum of the cut overflows and nothing is divided by zero, and its ranges are a balanced cover. -/
theorem partition_balanced (length parallelism batchSize : UInt64) :
    ∃ ranges, Words.partition? length parallelism batchSize = some ranges ∧
      ranges.map Words.toRange =
        partition length.toNat parallelism.toNat batchSize.toNat ∧
      BalancedCover length.toNat parallelism.toNat batchSize.toNat
        (ranges.map Words.toRange) := by
  obtain ⟨ranges, areRanges, rangesAre⟩ := Words.partition?_eq length parallelism batchSize
  refine ⟨ranges, areRanges, rangesAre, ?_⟩
  rw [rangesAre]
  exact balancedCover_partition _ _ _

end RepoVitals.Bulk

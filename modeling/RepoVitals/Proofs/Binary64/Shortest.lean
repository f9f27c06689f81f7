import RepoVitals.Binary64.Shortest
import RepoVitals.Proofs.Binary64.Rounding
/-!
Shortest decimals: where they lie and how long they are.

Owns:
- the power of ten at or below a magnitude;
- the search on decimal grids, which stays inside the interval of a magnitude, and which a grid that
  is finer than the interval ends;
- `shortestDecimal_spec`: the shortest decimal of a positive finite magnitude is positive, has at
  most seventeen digits, and lies within half a place of the magnitude.
-/

namespace RepoVitals.Binary64

/-- The number that a decimal stands for. -/
def Decimal.value (decimal : Decimal) : ℚ := decimal.digits * 10 ^ decimal.exponent

theorem ten_zpow_pos (exponent : Int) : (0 : ℚ) < 10 ^ exponent := by positivity

theorem ten_zpow_add (first second : Int) :
    (10 : ℚ) ^ (first + second) = 10 ^ first * 10 ^ second :=
  zpow_add₀ (by norm_num) first second

/-! ### Magnitudes -/

theorem significandOfRank_pos {rank : Nat} (positive : 0 < rank) : 0 < significandOfRank rank := by
  unfold significandOfRank
  split
  · exact positive
  · exact Nat.lt_add_right _ (by decide)

theorem significandOfRank_lt (rank : Nat) : significandOfRank rank < 2 * leastNormal := by
  have inside := Nat.mod_lt rank (show 0 < leastNormal by decide)
  unfold significandOfRank
  split <;> omega

theorem exponentOfRank_bounds {rank : Nat} (finite : rank < infinityRank) :
    -1074 ≤ exponentOfRank rank ∧ exponentOfRank rank ≤ 971 := by
  have below : rank / leastNormal < 2047 := Nat.div_lt_of_lt_mul (by rwa [Nat.mul_comm])
  unfold exponentOfRank
  split
  · omega
  · have : 1 ≤ rank / leastNormal := (Nat.le_div_iff_mul_le (by decide)).mpr (by omega)
    omega

theorem quotient_ratioOfRank (rank : Nat) : quotient (ratioOfRank rank) = magnitude rank := by
  rw [ratioOfRank, quotient_scaleDown, quotient, Nat.cast_one, div_one, zpow_neg, div_inv_eq_mul]
  rfl

theorem ratioOfRank_denominator_pos (rank : Nat) : 0 < (ratioOfRank rank).2 :=
  scaleDown_denominator_pos Nat.one_pos _ _

/-- The least and the greatest power of ten that a finite magnitude needs. -/
theorem magnitude_bounds {rank : Nat} (positive : 0 < rank) (finite : rank < infinityRank) :
    (10 : ℚ) ^ (-324 : Int) ≤ magnitude rank ∧ magnitude rank < 10 ^ (309 : Int) := by
  obtain ⟨least, greatest⟩ := exponentOfRank_bounds finite
  have scale := two_zpow_pos (exponentOfRank rank)
  constructor
  · have one : (1 : ℚ) ≤ significandOfRank rank := by
      exact_mod_cast significandOfRank_pos positive
    calc (10 : ℚ) ^ (-324 : Int) ≤ 2 ^ (-1074 : Int) := by
          rw [zpow_neg, zpow_neg]
          apply inv_anti₀ (by positivity)
          have : 2 ^ 1074 ≤ 10 ^ 324 := by decide +kernel
          exact_mod_cast this
      _ ≤ 1 * 2 ^ exponentOfRank rank := by
          rw [one_mul]
          exact two_zpow_le least
      _ ≤ magnitude rank := mul_le_mul_of_nonneg_right one scale.le
  · have below : (significandOfRank rank : ℚ) < 2 ^ (53 : Int) := by
      have : (significandOfRank rank : ℚ) < (2 * leastNormal : Nat) := by
        exact_mod_cast significandOfRank_lt rank
      norm_num [leastNormal] at this ⊢
      exact this
    calc magnitude rank < 2 ^ (53 : Int) * 2 ^ exponentOfRank rank :=
          mul_lt_mul_of_pos_right below scale
      _ = 2 ^ (53 + exponentOfRank rank) := (two_zpow_add _ _).symm
      _ ≤ 2 ^ (1024 : Int) := two_zpow_le (by omega)
      _ ≤ 10 ^ (309 : Int) := by
          have : 2 ^ 1024 ≤ 10 ^ 309 := by decide +kernel
          exact_mod_cast this

/-! ### The power of ten below a magnitude -/

theorem toDigits_length_bounds {value : Nat} (positive : 0 < value) :
    Nat.pow 10 ((Nat.toDigits 10 value).length - 1) ≤ value ∧
      value < Nat.pow 10 (Nat.toDigits 10 value).length := by
  have some : 0 < (Nat.toDigits 10 value).length := Nat.length_toDigits_pos
  constructor
  · by_contra short
    rcases Nat.eq_zero_or_pos ((Nat.toDigits 10 value).length - 1) with single | more
    · rw [single] at short
      exact short positive
    · have := (Nat.length_toDigits_le_iff (by decide) more).mpr (not_le.mp short)
      omega
  · exact (Nat.length_toDigits_le_iff (by decide) some).mp (le_refl _)

theorem quotient_enlarged (ratio : Nat × Nat) (places : Nat) :
    quotient (ratio.1 * Nat.pow 10 places, ratio.2) = quotient ratio * 10 ^ (places : Int) := by
  rw [quotient, quotient, Nat.cast_mul, cast_pow, zpow_natCast, Nat.cast_ofNat]
  ring

theorem decimalExponent_spec {rank : Nat} (positive : 0 < rank) (finite : rank < infinityRank) :
    (10 : ℚ) ^ decimalExponent rank ≤ magnitude rank ∧
      magnitude rank < 10 ^ (decimalExponent rank + 1) := by
  have denominator := ratioOfRank_denominator_pos rank
  have isMagnitude := quotient_enlarged (ratioOfRank rank) enlargedPlaces
  rw [quotient_ratioOfRank] at isMagnitude
  have shift := ten_zpow_pos enlargedPlaces
  -- The enlarged magnitude is at least one, so that its integer part has its digits.
  have enlarged :
      0 < (ratioOfRank rank).1 * Nat.pow 10 enlargedPlaces / (ratioOfRank rank).2 := by
    apply (le_quotient_iff denominator).mp
    rw [isMagnitude, Nat.cast_one]
    calc (1 : ℚ) ≤ 10 ^ ((-324 : Int) + enlargedPlaces) :=
          one_le_zpow₀ (by norm_num) (by decide)
      _ = 10 ^ (-324 : Int) * 10 ^ (enlargedPlaces : Int) := ten_zpow_add _ _
      _ ≤ magnitude rank * 10 ^ (enlargedPlaces : Int) :=
        mul_le_mul_of_nonneg_right (magnitude_bounds positive finite).1 shift.le
  obtain ⟨atLeast, below⟩ := toDigits_length_bounds enlarged
  unfold decimalExponent
  dsimp only
  generalize isLength : (Nat.toDigits 10
    ((ratioOfRank rank).1 * Nat.pow 10 enlargedPlaces / (ratioOfRank rank).2)).length = length at *
  have some : 0 < length := isLength ▸ Nat.length_toDigits_pos
  constructor
  · have bound := (le_quotient_iff denominator).mpr atLeast
    rw [isMagnitude, cast_pow, Nat.cast_ofNat, ← zpow_natCast,
      show ((length - 1 : Nat) : Int) = length - enlargedPlaces - 1 + enlargedPlaces by omega,
      ten_zpow_add] at bound
    exact le_of_mul_le_mul_right bound shift
  · have bound : quotient ((ratioOfRank rank).1 * Nat.pow 10 enlargedPlaces,
        (ratioOfRank rank).2) < (Nat.pow 10 length : Nat) := by
      rw [← not_le, le_quotient_iff denominator]
      omega
    rw [isMagnitude, cast_pow, Nat.cast_ofNat, ← zpow_natCast,
      show (length : Int) = length - enlargedPlaces - 1 + 1 + enlargedPlaces by omega,
      ten_zpow_add] at bound
    exact lt_of_mul_lt_mul_right bound shift.le

theorem decimalExponent_bounds {rank : Nat} (positive : 0 < rank) (finite : rank < infinityRank) :
    -325 ≤ decimalExponent rank ∧ decimalExponent rank ≤ 308 := by
  obtain ⟨atLeast, below⟩ := decimalExponent_spec positive finite
  obtain ⟨least, greatest⟩ := magnitude_bounds positive finite
  have low := (zpow_lt_zpow_iff_right₀ (show (1 : ℚ) < 10 by norm_num)).mp (least.trans_lt below)
  have high := (zpow_lt_zpow_iff_right₀ (show (1 : ℚ) < 10 by norm_num)).mp
    (atLeast.trans_lt greatest)
  omega

/-! ### Grids -/

theorem gridUnit_denominator_pos {unit : Nat × Nat} (positive : 0 < unit.2) (exponent : Int) :
    0 < (gridUnit unit exponent).2 := by
  unfold gridUnit
  split
  · exact positive
  · exact Nat.mul_pos positive (Nat.pow_pos (by decide))

theorem gridUnit_numerator_pos {unit : Nat × Nat} (positive : 0 < unit.1) (exponent : Int) :
    0 < (gridUnit unit exponent).1 := by
  unfold gridUnit
  split
  · exact Nat.mul_pos positive (Nat.pow_pos (by decide))
  · exact positive

theorem quotient_gridUnit (unit : Nat × Nat) (exponent : Int) :
    quotient (gridUnit unit exponent) = quotient unit / 10 ^ exponent := by
  unfold gridUnit quotient
  have := ten_zpow_pos exponent
  split
  · rename_i negative
    rw [Nat.cast_mul, cast_pow, Nat.cast_ofNat, zpow_natAbs_of_neg negative]
    field_simp
  · rename_i nonneg
    rw [Nat.cast_mul, cast_pow, Nat.cast_ofNat, zpow_natAbs_of_nonneg nonneg]
    field_simp

section Grid

variable {unit : Nat × Nat} (positive : 0 < unit.2) (exponent : Int)
include positive

theorem cast_mul_gridUnit (count : Nat) :
    ((count * (gridUnit unit exponent).1 : Nat) : ℚ) * 10 ^ exponent =
      count * quotient unit * (gridUnit unit exponent).2 := by
  have below : (0 : ℚ) < (gridUnit unit exponent).2 := by
    exact_mod_cast gridUnit_denominator_pos positive exponent
  have isUnit := quotient_gridUnit unit exponent
  rw [quotient, div_eq_div_iff below.ne' (ten_zpow_pos exponent).ne'] at isUnit
  rw [Nat.cast_mul, mul_assoc, isUnit, mul_assoc]

/-- A multiple of the unit against a point of the grid. -/
theorem mul_gridUnit_le_iff (count digits : Nat) :
    count * (gridUnit unit exponent).1 ≤ digits * (gridUnit unit exponent).2 ↔
      count * quotient unit ≤ digits * 10 ^ exponent := by
  have below : (0 : ℚ) < (gridUnit unit exponent).2 := by
    exact_mod_cast gridUnit_denominator_pos positive exponent
  rw [← Nat.cast_le (α := ℚ), ← mul_le_mul_iff_of_pos_right (ten_zpow_pos exponent),
    cast_mul_gridUnit positive, Nat.cast_mul, mul_right_comm (digits : ℚ),
    mul_le_mul_iff_of_pos_right below]

theorem le_mul_gridUnit_iff (count digits : Nat) :
    digits * (gridUnit unit exponent).2 ≤ count * (gridUnit unit exponent).1 ↔
      digits * 10 ^ exponent ≤ count * quotient unit := by
  have below : (0 : ℚ) < (gridUnit unit exponent).2 := by
    exact_mod_cast gridUnit_denominator_pos positive exponent
  rw [← Nat.cast_le (α := ℚ), ← mul_le_mul_iff_of_pos_right (ten_zpow_pos exponent),
    cast_mul_gridUnit positive, Nat.cast_mul, mul_right_comm (digits : ℚ),
    mul_le_mul_iff_of_pos_right below]

end Grid

/-- The decimal lies inside the interval or at one of its ends. -/
def RoundingInterval.Holds (interval : RoundingInterval) (decimal : Decimal) : Prop :=
  interval.low * quotient interval.unit ≤ decimal.value ∧
    decimal.value ≤ interval.high * quotient interval.unit

theorem RoundingInterval.Holds.of_value_eq
    {interval : RoundingInterval}
    {first second : Decimal}
    (holds : interval.Holds first)
    (same : first.value = second.value) :
    interval.Holds second := by
  unfold RoundingInterval.Holds at holds ⊢
  rwa [← same]

section Search

variable {interval : RoundingInterval} {exponent : Int}

theorem RoundingInterval.bounds_of_admits
    {unit : Nat × Nat}
    {candidate : Nat}
    (admitted : interval.admits unit candidate = true) :
    interval.low * unit.1 ≤ candidate * unit.2 ∧ candidate * unit.2 ≤ interval.high * unit.1 := by
  unfold RoundingInterval.admits at admitted
  split at admitted <;> have inside := of_decide_eq_true admitted <;> omega

theorem RoundingInterval.admits_of_bounds
    {unit : Nat × Nat}
    {candidate : Nat}
    (above : interval.low * unit.1 < candidate * unit.2)
    (below : candidate * unit.2 < interval.high * unit.1) :
    interval.admits unit candidate = true := by
  unfold RoundingInterval.admits
  split <;> rw [decide_eq_true_eq] <;> omega

/-- What the search finds on one grid: one of the two neighbours of the magnitude. -/
theorem nearestOnGrid?_spec
    {digits : Nat}
    (positive : 0 < interval.unit.2)
    (found : nearestOnGrid? interval exponent = some digits) :
    0 < digits ∧ interval.Holds ⟨digits, exponent⟩ ∧
      digits ≤ interval.value * (gridUnit interval.unit exponent).1 /
        (gridUnit interval.unit exponent).2 + 1 := by
  generalize isBelow : interval.value * (gridUnit interval.unit exponent).1 /
    (gridUnit interval.unit exponent).2 = below
  have counts : ∀ candidate : Nat, 0 < candidate → candidate ≤ below + 1 →
      interval.admits (gridUnit interval.unit exponent) candidate = true →
      0 < candidate ∧ interval.Holds ⟨candidate, exponent⟩ ∧ candidate ≤ below + 1 := by
    intro candidate some near admitted
    have bounds := RoundingInterval.bounds_of_admits admitted
    refine ⟨some, ⟨?_, ?_⟩, near⟩
    · exact (mul_gridUnit_le_iff positive exponent interval.low candidate).mp bounds.1
    · exact (le_mul_gridUnit_iff positive exponent interval.high candidate).mp bounds.2
  unfold nearestOnGrid? at found
  dsimp only at found
  rw [isBelow] at found
  split at found
  · rename_i insideBelow insideAbove
    rw [Bool.and_eq_true, decide_eq_true_eq] at insideBelow
    have fromBelow := counts below insideBelow.1 (Nat.le_succ _) insideBelow.2
    have fromAbove := counts (below + 1) (Nat.succ_pos _) (le_refl _) insideAbove
    split at found
    · exact Option.some.inj found ▸ fromBelow
    · split at found
      · exact Option.some.inj found ▸ fromAbove
      · split at found
        · exact Option.some.inj found ▸ fromBelow
        · exact Option.some.inj found ▸ fromAbove
  · rename_i insideBelow _
    rw [Bool.and_eq_true, decide_eq_true_eq] at insideBelow
    exact Option.some.inj found ▸ counts below insideBelow.1 (Nat.le_succ _) insideBelow.2
  · rename_i _ insideAbove
    exact Option.some.inj found ▸ counts (below + 1) (Nat.succ_pos _) (le_refl _) insideAbove
  · cases found

/-- A grid that is finer than the interval, and not coarser than the magnitude, ends the search. -/
theorem isSome_nearestOnGrid?
    (inside : interval.low < interval.value ∧ interval.value < interval.high)
    (positive : 0 < interval.unit.1 ∧ 0 < interval.unit.2)
    (reached : (10 : ℚ) ^ exponent ≤ interval.value * quotient interval.unit)
    (finer : (10 : ℚ) ^ exponent <
      ((interval.high - interval.low : Nat) : ℚ) * quotient interval.unit) :
    (nearestOnGrid? interval exponent).isSome = true := by
  have one := gridUnit_numerator_pos positive.1 exponent
  have grid := gridUnit_denominator_pos positive.2 exponent
  have isReached := (le_mul_gridUnit_iff positive.2 exponent interval.value 1).mpr
    (by rwa [Nat.cast_one, one_mul])
  have isFiner : ¬(interval.high - interval.low) * (gridUnit interval.unit exponent).1 ≤
      1 * (gridUnit interval.unit exponent).2 := by
    rw [mul_gridUnit_le_iff positive.2 exponent, Nat.cast_one, one_mul]
    exact not_le.mpr finer
  unfold nearestOnGrid?
  dsimp only
  generalize gridUnit interval.unit exponent = unit at *
  have parts := Nat.div_add_mod (interval.value * unit.1) unit.2
  have rest := Nat.mod_lt (interval.value * unit.1) grid
  have some : 0 < interval.value * unit.1 / unit.2 := Nat.div_pos (by omega) grid
  generalize interval.value * unit.1 / unit.2 = below at *
  have lowValue : interval.low * unit.1 < interval.value * unit.1 :=
    Nat.mul_lt_mul_of_pos_right inside.1 one
  have valueHigh : interval.value * unit.1 < interval.high * unit.1 :=
    Nat.mul_lt_mul_of_pos_right inside.2 one
  rw [Nat.sub_mul] at isFiner
  rw [Nat.mul_comm] at parts
  -- Two neighbours outside would be further apart than the ends.
  have one_inside :
      interval.admits unit below = true ∨ interval.admits unit (below + 1) = true := by
    by_cases above : interval.low * unit.1 < below * unit.2
    · exact Or.inl (RoundingInterval.admits_of_bounds above (by omega))
    · apply Or.inr
      apply RoundingInterval.admits_of_bounds
      · rw [Nat.add_mul]
        omega
      · rw [Nat.add_mul]
        omega
  split
  · split
    · rfl
    · split <;> rfl
  · rfl
  · rfl
  · rename_i outsideBelow outsideAbove
    rw [decide_eq_true some, Bool.true_and] at outsideBelow
    simp [outsideBelow, outsideAbove] at one_inside

end Search

/-! ### The interval of a magnitude -/

theorem value_eq (rank : Nat) : (roundingInterval rank).value = 4 * significandOfRank rank := rfl

theorem high_eq (rank : Nat) : (roundingInterval rank).high = 4 * significandOfRank rank + 2 := rfl

theorem unit_eq (rank : Nat) :
    (roundingInterval rank).unit = scaleDown 1 1 (2 - exponentOfRank rank) := rfl

theorem quotient_unit_roundingInterval (rank : Nat) :
    quotient (roundingInterval rank).unit = 2 ^ (exponentOfRank rank - 2) := by
  rw [unit_eq, quotient_scaleDown, quotient, Nat.cast_one, div_one, one_div, ← zpow_neg, neg_sub]

theorem value_roundingInterval (rank : Nat) :
    (roundingInterval rank).value * quotient (roundingInterval rank).unit = magnitude rank := by
  rw [quotient_unit_roundingInterval, value_eq, magnitude, Nat.cast_mul, sub_eq_add_neg,
    two_zpow_add]
  norm_num
  ring

theorem unit_roundingInterval_pos (rank : Nat) :
    0 < (roundingInterval rank).unit.1 ∧ 0 < (roundingInterval rank).unit.2 := by
  rw [unit_eq]
  constructor
  · unfold scaleDown
    split
    · rw [Nat.one_mul]
      exact Nat.pow_pos (show 0 < 2 by decide)
    · exact Nat.one_pos
  · exact scaleDown_denominator_pos Nat.one_pos _ _

/-- Sixteen places below the first digit the grid is finer than the interval. -/
theorem isSome_nearestOnGrid?_roundingInterval
    {rank : Nat}
    (positive : 0 < rank)
    (finite : rank < infinityRank) :
    (nearestOnGrid? (roundingInterval rank) (decimalExponent rank - 16)).isSome = true := by
  have some := significandOfRank_pos positive
  have scale : (0 : ℚ) < quotient (roundingInterval rank).unit := by
    rw [quotient_unit_roundingInterval]
    exact two_zpow_pos _
  have atLeast := (decimalExponent_spec positive finite).1
  have wide : 4 * significandOfRank rank <
      ((roundingInterval rank).high - (roundingInterval rank).low) * 10000000000000000 := by
    have below := significandOfRank_lt rank
    have places : leastNormal = 4503599627370496 := rfl
    dsimp only [roundingInterval]
    split <;> omega
  apply isSome_nearestOnGrid?
  · dsimp only [roundingInterval]
    split <;> omega
  · exact unit_roundingInterval_pos rank
  · rw [value_roundingInterval]
    exact (zpow_le_zpow_right₀ (by norm_num) (by omega)).trans atLeast
  · have split : (10 : ℚ) ^ decimalExponent rank =
        10 ^ (decimalExponent rank - 16) * 10000000000000000 := by
      rw [← sub_add_cancel (decimalExponent rank) 16, ten_zpow_add, sub_add_cancel]
      norm_num
    rw [split, ← value_roundingInterval] at atLeast
    have cast : ((roundingInterval rank).value : ℚ) <
        ((roundingInterval rank).high - (roundingInterval rank).low : Nat) * 10000000000000000 := by
      exact_mod_cast wide
    have scaled := mul_lt_mul_of_pos_right cast scale
    linarith

/-! ### The search over the grids -/

theorem coarsestGrid_spec
    {interval : RoundingInterval}
    {last : Int}
    (ends : (nearestOnGrid? interval last).isSome = true) :
    ∀ (tries : Nat) (exponent : Int), last ≤ exponent → exponent < last + tries →
      nearestOnGrid? interval (coarsestGrid interval tries exponent).exponent =
          some (coarsestGrid interval tries exponent).digits ∧
        last ≤ (coarsestGrid interval tries exponent).exponent := by
  intro tries
  induction tries with
  | zero => omega
  | succ tries inductionHypothesis =>
    intro exponent notBelow inTries
    unfold coarsestGrid
    split
    · rename_i found
      exact ⟨found, notBelow⟩
    · rename_i missed
      have notLast : exponent ≠ last := by
        intro isLast
        rw [isLast, ← Option.not_isSome_iff_eq_none] at missed
        exact missed ends
      apply inductionHypothesis
      · omega
      · omega

theorem dropZeros_spec (steps : Nat) (decimal : Decimal) :
    (dropZeros steps decimal).value = decimal.value ∧
      (dropZeros steps decimal).digits ≤ decimal.digits ∧
      (0 < decimal.digits → 0 < (dropZeros steps decimal).digits) ∧
      decimal.exponent ≤ (dropZeros steps decimal).exponent := by
  induction steps generalizing decimal with
  | zero => exact ⟨rfl, le_refl _, id, le_refl _⟩
  | succ steps inductionHypothesis =>
    unfold dropZeros
    split
    · rename_i zeros
      obtain ⟨sameValue, fewer, positive, greater⟩ :=
        inductionHypothesis ⟨decimal.digits / 10, decimal.exponent + 1⟩
      refine ⟨?_, ?_, ?_, ?_⟩
      · have whole : decimal.digits / 10 * 10 = decimal.digits := by omega
        rw [sameValue, Decimal.value, Decimal.value, ten_zpow_add, zpow_one, ← whole]
        dsimp only
        rw [Nat.mul_div_cancel _ (by decide), Nat.cast_mul, Nat.cast_ofNat]
        ring
      · exact fewer.trans (Nat.div_le_self _ _)
      · intro _
        apply positive
        dsimp only
        omega
      · exact (Int.le_add_one (le_refl _)).trans greater
    · exact ⟨rfl, le_refl _, id, le_refl _⟩

/-- A positive decimal of at most seventeen digits (or ten to the seventeenth) that rounds to the
magnitude of this rank, an end of its interval perhaps. -/
structure Decimal.Near (decimal : Decimal) (rank : Nat) : Prop where
  positive : 0 < decimal.digits
  short : decimal.digits ≤ 100000000000000000
  holds : (roundingInterval rank).Holds decimal
  fine : -341 ≤ decimal.exponent

/-- On a grid that is not finer than sixteen places below the first digit, the neighbour below has
at most seventeen digits. -/
theorem neighbour_lt
    {rank : Nat}
    {exponent : Int}
    (positive : 0 < rank)
    (finite : rank < infinityRank)
    (notFiner : decimalExponent rank - 16 ≤ exponent) :
    (roundingInterval rank).value * (gridUnit (roundingInterval rank).unit exponent).1 /
      (gridUnit (roundingInterval rank).unit exponent).2 < 100000000000000000 := by
  have below := (le_mul_gridUnit_iff (unit_roundingInterval_pos rank).2 exponent _ _).mp
    (Nat.div_mul_le_self
      ((roundingInterval rank).value * (gridUnit (roundingInterval rank).unit exponent).1)
      (gridUnit (roundingInterval rank).unit exponent).2)
  rw [value_roundingInterval] at below
  have far : magnitude rank < 100000000000000000 * 10 ^ exponent := by
    calc magnitude rank < 10 ^ (decimalExponent rank + 1) :=
          (decimalExponent_spec positive finite).2
      _ ≤ 10 ^ (17 + exponent) := zpow_le_zpow_right₀ (by norm_num) (by omega)
      _ = 100000000000000000 * 10 ^ exponent := by
        rw [ten_zpow_add]
        norm_num
  have cast := lt_of_mul_lt_mul_right (below.trans_lt far) (ten_zpow_pos exponent).le
  exact_mod_cast cast

theorem near_shortestDecimal {rank : Nat} (positive : 0 < rank) (finite : rank < infinityRank) :
    (shortestDecimal rank).Near rank := by
  have bounds := decimalExponent_bounds positive finite
  have ends := isSome_nearestOnGrid?_roundingInterval positive finite
  obtain ⟨found, notBelow⟩ :=
    coarsestGrid_spec ends 18 (decimalExponent rank + 1) (by omega) (by omega)
  rw [shortestDecimal, if_neg positive.ne']
  generalize coarsestGrid (roundingInterval rank) 18 (decimalExponent rank + 1) = decimal at *
  obtain ⟨digits, exponent⟩ := decimal
  obtain ⟨somePositive, holds, neighbour⟩ :=
    nearestOnGrid?_spec (unit_roundingInterval_pos rank).2 found
  obtain ⟨sameValue, fewer, keepsPositive, greater⟩ := dropZeros_spec 20 ⟨digits, exponent⟩
  have short := neighbour_lt positive finite notBelow
  constructor
  · exact keepsPositive somePositive
  · omega
  · exact holds.of_value_eq sameValue.symm
  · omega

/-- The shortest decimal is at most half a place greater than its magnitude. -/
theorem Decimal.Near.value_le
    {decimal : Decimal}
    {rank : Nat}
    (near : decimal.Near rank) :
    decimal.value ≤ (significandOfRank rank + 1 / 2) * 2 ^ exponentOfRank rank := by
  have atMost := near.holds.2
  rw [quotient_unit_roundingInterval, high_eq, sub_eq_add_neg, two_zpow_add] at atMost
  norm_num at atMost
  linarith

end RepoVitals.Binary64

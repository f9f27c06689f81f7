import Mathlib.Data.Rat.Floor
import RepoVitals.Binary64.Reading
import RepoVitals.Proofs.Binary64.Shortest
/-!
Overflow: which numbers are too large for a finite one, and the integers nearest to those that are
not.

Owns:
- `overflow`, the middle between the greatest finite magnitude and the next power of two;
- `isFinite_ofRatio` and `isFinite_ofDecimal`: a quotient and a decimal are read as finite numbers
  exactly below it;
- quotients of finite numbers that are finite again;
- the exact value of a finite number, and `round_of_isFinite`: what it is rounded to.
-/

namespace RepoVitals

/-- The integer nearest to a rational, a half going away from zero. -/
def halfAway (value : ℚ) : Int :=
  if value < 0 then -round (-value) else round value

/-- Halfway between two integers a rational that is not negative is rounded up. -/
theorem abs_lt_abs_round
    {value : ℚ}
    (nonneg : 0 ≤ value)
    (tie : |value - round value| = 1 / 2) :
    |value| < |(round value : ℚ)| := by
  have bounds := round_eq_iff.mp (rfl : round value = round value)
  have roundNonneg : (0 : ℚ) ≤ round value := by
    have cast : ((-1 : Int) : ℚ) < round value := by
      push_cast
      linarith [bounds.2]
    have : -1 < round value := by exact_mod_cast cast
    exact_mod_cast (show 0 ≤ round value by omega)
  rw [abs_of_nonneg nonneg, abs_of_nonneg roundNonneg]
  rcases (abs_eq (by norm_num)).mp tie with above | below
  · linarith [bounds.2]
  · linarith

/-- No integer is nearer, and of two that are equally near it is the one farther from zero. -/
theorem halfAway_spec (value : ℚ) :
    |value - halfAway value| ≤ 1 / 2 ∧
      (|value - halfAway value| = 1 / 2 → |value| < |(halfAway value : ℚ)|) := by
  unfold halfAway
  split
  · rename_i negative
    have same : |value - ((-round (-value) : Int) : ℚ)| = |(-value) - round (-value)| := by
      rw [Int.cast_neg, ← abs_neg]
      congr 1
      ring
    rw [same, Int.cast_neg, abs_neg, ← abs_neg value]
    exact ⟨abs_sub_round _, abs_lt_abs_round (by linarith)⟩
  · rename_i nonneg
    exact ⟨abs_sub_round _, abs_lt_abs_round (not_lt.mp nonneg)⟩

theorem round_quotient (numerator : Nat) {denominator : Nat} (positive : 0 < denominator) :
    round (Binary64.quotient (numerator, denominator)) =
      ((2 * numerator + denominator) / (2 * denominator) : Nat) := by
  have positiveCast : (0 : ℚ) < denominator := by exact_mod_cast positive
  have whole : Binary64.quotient (numerator, denominator) + 1 / 2 =
      ((2 * numerator + denominator : Nat) : ℚ) / ((2 * denominator : Nat) : ℚ) := by
    rw [Binary64.quotient]
    push_cast
    field_simp
  rw [round_eq, whole, Rat.floor_natCast_div_natCast, Int.natCast_ediv]

namespace Binary64

/-- The middle between the greatest finite magnitude and the next power of two. -/
def overflow : ℚ := (2 ^ 53 - 1 / 2) * 2 ^ (971 : Int)

theorem overflow_pos : 0 < overflow := mul_pos (by norm_num) (two_zpow_pos _)

/-! ### The nearest integer and an even bound -/

/-- From half a place below an even integer on, the nearest integer is not below it. -/
theorem le_roundHalfEven
    {numerator denominator bound : Nat}
    (even : bound % 2 = 0)
    (reached : 2 * (denominator * bound) ≤ 2 * numerator + denominator)
    (positive : 0 < denominator) :
    bound ≤ roundHalfEven numerator denominator := by
  have parts := Nat.div_add_mod numerator denominator
  have rest := Nat.mod_lt numerator positive
  by_cases below : bound ≤ numerator / denominator
  · exact below.trans (div_le_roundHalfEven _ _)
  · have next : bound = numerator / denominator + 1 := by
      by_contra further
      have := Nat.mul_le_mul_left denominator (show numerator / denominator + 2 ≤ bound by omega)
      rw [Nat.mul_add] at this
      omega
    rw [next, Nat.mul_add] at reached
    unfold roundHalfEven
    dsimp only
    split
    · omega
    · split <;> omega

/-! ### Quotients -/

section Quotients

variable {numerator denominator : Nat}

/-- What reaches the middle is rounded up to infinity, since the power of two is the even one of the
two neighbours. -/
theorem infinityRank_le_nearestRank
    (positiveBelow : 0 < denominator)
    (large : overflow ≤ quotient (numerator, denominator)) :
    infinityRank ≤ nearestRank numerator denominator := by
  have positive : 0 < numerator := by
    by_contra isZero
    rw [Nat.eq_zero_of_not_pos isZero, quotient, Nat.cast_zero, zero_div] at large
    exact absurd overflow_pos (not_lt.mpr large)
  obtain ⟨below, -⟩ := exponentFor_bounds positive positiveBelow
  obtain ⟨-, -, normal⟩ := significand_bounds positive positiveBelow
  have isInfinity : infinityRank = 2047 * leastNormal := rfl
  have scale := two_zpow_pos 971
  rw [nearestRank_of_pos positive]
  rcases lt_trichotomy (exponentFor numerator denominator) 971 with low | last | high
  · exfalso
    have atMost : (2 : ℚ) ^ (exponentFor numerator denominator + 53) ≤ 2 ^ ((971 : Int) + 52) :=
      two_zpow_le (by omega)
    rw [two_zpow_add 971, show (2 : ℚ) ^ (52 : Int) = 2 ^ 52 from zpow_natCast 2 52] at atMost
    unfold overflow at large
    generalize (2 : ℚ) ^ (971 : Int) = unit at *
    linarith
  · rw [last]
    have scaledPositive := scaleDown_denominator_pos positiveBelow numerator 971
    have scaled : (2 : ℚ) ^ 53 - 1 / 2 ≤ quotient (scaleDown numerator denominator 971) := by
      rw [quotient_scaleDown]
      exact (le_div_iff₀ scale).mpr large
    generalize scaleDown numerator denominator 971 = parts at *
    have positiveCast : (0 : ℚ) < parts.2 := by exact_mod_cast scaledPositive
    have reached : 2 * (parts.2 * (2 * leastNormal)) ≤ 2 * parts.1 + parts.2 := by
      have cast := (le_div_iff₀ positiveCast).mp scaled
      have : (2 * (parts.2 * (2 * leastNormal)) : ℚ) ≤ 2 * parts.1 + parts.2 := by
        norm_num [leastNormal] at cast ⊢
        linarith
      exact_mod_cast this
    have significand := le_roundHalfEven (by decide) reached scaledPositive
    rw [show ((971 : Int) + 1074).toNat = 2045 by decide]
    omega
  · have significand := normal.resolve_right (by omega)
    have : 2046 * leastNormal ≤
        (exponentFor numerator denominator + 1074).toNat * leastNormal :=
      Nat.mul_le_mul_right _ (by omega)
    omega

theorem isFinite_ofRank (negative : Bool) (rank : Nat) :
    (ofRank negative rank).isFinite = true ↔ rank < infinityRank := by
  rw [ofRank, isFinite, decide_eq_true_eq, min_lt_iff]
  omega

/-- A quotient is read as a finite number exactly below the middle. -/
theorem isFinite_ofRatio (negative : Bool) (positiveBelow : 0 < denominator) :
    (ofRatio negative numerator denominator).isFinite = true ↔
      quotient (numerator, denominator) < overflow := by
  rw [ofRatio, isFinite_ofRank]
  constructor
  · intro finite
    by_contra large
    have := infinityRank_le_nearestRank positiveBelow (not_lt.mp large)
    omega
  · exact nearestRank_lt_infinityRank positiveBelow

end Quotients

/-! ### Decimals -/

theorem overflow_lt_ten_pow : overflow < 10 ^ (400 : Int) := by
  have places : (9007199254740992 : ℚ) * 2 ^ (971 : Int) ≤ 10 ^ (400 : Int) := by
    have : 9007199254740992 * 2 ^ 971 ≤ 10 ^ 400 := by decide +kernel
    exact_mod_cast this
  exact (mul_lt_mul_of_pos_right (by norm_num) (two_zpow_pos _)).trans_le places

theorem one_lt_overflow : 1 < overflow := by
  have scale : (1 : ℚ) ≤ 2 ^ (971 : Int) := one_le_zpow₀ (by norm_num) (by decide)
  unfold overflow
  generalize (2 : ℚ) ^ (971 : Int) = unit at *
  linarith

/-- The number of digits bounds a decimal by powers of ten. -/
theorem decimal_bounds {digits : Nat} (positive : 0 < digits) (exponent : Int) :
    (10 : ℚ) ^ (((Nat.toDigits 10 digits).length : Int) + exponent - 1) ≤ digits * 10 ^ exponent ∧
      digits * 10 ^ exponent < (10 : ℚ) ^ (((Nat.toDigits 10 digits).length : Int) + exponent) := by
  obtain ⟨atLeast, below⟩ := toDigits_length_bounds positive
  have some : 0 < (Nat.toDigits 10 digits).length := Nat.length_toDigits_pos
  generalize (Nat.toDigits 10 digits).length = length at *
  have scale := ten_zpow_pos exponent
  constructor
  · rw [show (length : Int) + exponent - 1 = ((length - 1 : Nat) : Int) + exponent by omega,
      ten_zpow_add, zpow_natCast]
    apply mul_le_mul_of_nonneg_right _ scale.le
    exact_mod_cast atLeast
  · rw [ten_zpow_add, zpow_natCast]
    apply mul_lt_mul_of_pos_right _ scale
    exact_mod_cast below

/-- A decimal is read as a finite number exactly below the middle. -/
theorem isFinite_ofDecimal (negative : Bool) (digits : Nat) (exponent : Int) :
    (ofDecimal negative digits exponent).isFinite = true ↔
      (digits : ℚ) * 10 ^ exponent < overflow := by
  unfold ofDecimal
  by_cases isZero : digits = 0
  · rw [if_pos isZero, isFinite_ofRank, isZero, Nat.cast_zero, zero_mul]
    exact iff_of_true (by decide) overflow_pos
  · rw [if_neg isZero]
    dsimp only
    obtain ⟨atLeast, below⟩ := decimal_bounds (Nat.pos_of_ne_zero isZero) exponent
    generalize ((Nat.toDigits 10 digits).length : Int) = length at *
    have ascends : ∀ {first second : Int}, first ≤ second → (10 : ℚ) ^ first ≤ 10 ^ second :=
      fun atMost => zpow_le_zpow_right₀ (by norm_num) atMost
    split
    · rename_i far
      rw [isFinite_ofRank]
      apply iff_of_false (lt_irrefl _)
      exact not_lt.mpr (overflow_lt_ten_pow.le.trans
        ((ascends (show 400 ≤ length + exponent - 1 by omega)).trans atLeast))
    · split
      · rename_i near
        rw [isFinite_ofRank]
        apply iff_of_true (by decide)
        calc (digits : ℚ) * 10 ^ exponent < 10 ^ (length + exponent) := below
          _ ≤ 10 ^ (0 : Int) := ascends (by omega)
          _ = 1 := zpow_zero 10
          _ < overflow := one_lt_overflow
      · split
        · rename_i negativeExponent
          have power : 0 < Nat.pow 10 exponent.natAbs := Nat.pow_pos (by decide)
          rw [isFinite_ofRatio negative power, quotient, cast_pow, Nat.cast_ofNat,
            zpow_natAbs_of_neg negativeExponent, div_inv_eq_mul]
        · rename_i nonneg
          rw [isFinite_ofRatio negative Nat.one_pos, quotient, Nat.cast_mul, cast_pow,
            Nat.cast_ofNat, zpow_natAbs_of_nonneg nonneg, Nat.cast_one, div_one]

/-! ### Finite numbers that are divided -/

theorem magnitude_lt_overflow {rank : Nat} (finite : rank < infinityRank) :
    magnitude rank < overflow := by
  have significand : (significandOfRank rank : ℚ) ≤ 9007199254740991 := by
    have below := significandOfRank_lt rank
    have places : leastNormal = 4503599627370496 := rfl
    have : significandOfRank rank ≤ 9007199254740991 := by omega
    exact_mod_cast this
  calc magnitude rank ≤ 9007199254740991 * 2 ^ exponentOfRank rank :=
        mul_le_mul_of_nonneg_right significand (two_zpow_pos _).le
    _ ≤ 9007199254740991 * 2 ^ (971 : Int) :=
        mul_le_mul_of_nonneg_left (two_zpow_le (exponentOfRank_bounds finite).2) (by norm_num)
    _ < overflow := mul_lt_mul_of_pos_right (by norm_num) (two_zpow_pos _)

/-- Rounding a positive integer does not carry it below one. -/
theorem one_le_magnitude_nearestRank {value : Nat} (positive : 0 < value) :
    1 ≤ magnitude (nearestRank value 1) := by
  have one : (1 : ℚ) ≤ quotient (value, 1) := by
    rw [quotient, Nat.cast_one, div_one]
    exact_mod_cast positive
  obtain ⟨below, -⟩ := exponentFor_bounds positive Nat.one_pos
  have exponent : -52 ≤ exponentFor value 1 := by
    by_contra low
    have : (2 : ℚ) ^ (exponentFor value 1 + 53) ≤ 2 ^ (0 : Int) := two_zpow_le (by omega)
    rw [zpow_zero] at this
    linarith
  obtain ⟨-, -, normal⟩ := significand_bounds positive Nat.one_pos
  have significand := normal.resolve_right (by omega)
  have cast : (leastNormal : ℚ) ≤
      roundHalfEven (scaleDown value 1 (exponentFor value 1)).1
        (scaleDown value 1 (exponentFor value 1)).2 := by
    exact_mod_cast significand
  rw [magnitude_nearestRank positive Nat.one_pos]
  calc (1 : ℚ) = leastNormal * 2 ^ (-52 : Int) := by norm_num [leastNormal]
    _ ≤ leastNormal * 2 ^ exponentFor value 1 :=
        mul_le_mul_of_nonneg_left (two_zpow_le exponent) (Nat.cast_nonneg _)
    _ ≤ _ := mul_le_mul_of_nonneg_right cast (two_zpow_pos _).le

theorem rank_pos_of_one_le {rank : Nat} (one : 1 ≤ magnitude rank) : 0 < rank := by
  by_contra isZero
  rw [Nat.eq_zero_of_not_pos isZero, magnitude_zero] at one
  norm_num at one

/-- Dividing a finite number by one that is not below one leaves a finite number. -/
theorem isFinite_divide
    {value : Binary64}
    {rank : Nat}
    (finite : value.isFinite = true)
    (finiteBelow : rank < infinityRank)
    (one : 1 ≤ magnitude rank) :
    (value.divide (ofRank false rank)).isFinite = true := by
  have positive := rank_pos_of_one_le one
  cases value with
  | notANumber => cases finite
  | signed negative held =>
    have isFinite : held.val < infinityRank := of_decide_eq_true finite
    rw [ofRank_eq false finiteBelow, divide]
    dsimp only
    rw [if_neg isFinite.ne, if_neg finiteBelow.ne, if_neg positive.ne']
    have significand := significandOfRank_pos positive
    rw [isFinite_ofRatio _ (scaleDown_denominator_pos significand _ _), Prod.mk.eta,
      quotient_scaleDown]
    have scale := two_zpow_pos (exponentOfRank held)
    have scaleBelow := two_zpow_pos (exponentOfRank rank)
    have significandCast : (0 : ℚ) < significandOfRank rank := by exact_mod_cast significand
    calc quotient (significandOfRank held, significandOfRank rank) /
          2 ^ (exponentOfRank rank - exponentOfRank held)
        = magnitude held / magnitude rank := by
          rw [quotient, magnitude, magnitude, zpow_sub₀ (by norm_num)]
          field_simp
      _ ≤ magnitude held / 1 :=
          div_le_div_of_nonneg_left (mul_nonneg (Nat.cast_nonneg _) scale.le) one_pos one
      _ = magnitude held := div_one _
      _ < overflow := magnitude_lt_overflow isFinite

/-! ### Rounding to an integer -/

/-- The value of a finite number. -/
def exact : Binary64 → ℚ
  | .notANumber => 0
  | .signed negative rank => if negative then -magnitude rank else magnitude rank

/-- A finite number is rounded to the integer nearest to its value, inside the 64-bit range. -/
theorem round_of_isFinite {value : Binary64} (finite : value.isFinite = true) :
    value.round = clampInt64 (halfAway value.exact) := by
  cases value with
  | notANumber => cases finite
  | signed negative rank =>
    have isFinite : rank.val < infinityRank := of_decide_eq_true finite
    have nonneg : 0 ≤ magnitude rank :=
      mul_nonneg (Nat.cast_nonneg _) (two_zpow_pos _).le
    have nearest := round_quotient (ratioOfRank rank).1 (ratioOfRank_denominator_pos rank)
    rw [Prod.mk.eta, quotient_ratioOfRank] at nearest
    rw [round, toInt64By, if_neg isFinite.ne]
    dsimp only
    rw [← nearest, halfAway, exact]
    cases negative with
    | false =>
      simp only [Bool.false_eq_true, if_false, if_neg (not_lt.mpr nonneg)]
    | true =>
      simp only [if_true, neg_neg, Left.neg_neg_iff]
      rcases nonneg.eq_or_lt with isZero | positive
      · rw [← isZero]
        simp
      · rw [if_pos positive]

end Binary64

end RepoVitals

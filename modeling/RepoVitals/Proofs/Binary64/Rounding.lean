import Mathlib.Algebra.Order.Field.Power
import Mathlib.Tactic.FieldSimp
import Mathlib.Tactic.Linarith
import Mathlib.Tactic.NormNum
import Mathlib.Tactic.Positivity
import Mathlib.Tactic.Ring
import RepoVitals.Binary64.Basic
/-!
Rounding: how far the number nearest to a quotient is from it.

Owns:
- the exact magnitude of a rank, and quotients of natural numbers, as rationals;
- where the exponent of a quotient puts it, and how far the integer nearest to it can be;
- `magnitude_nearestRank_natural`: rounding an integer adds at most its `2 ^ 53`-th part;
- `nearestRank_lt_infinityRank`: a quotient below the last half place rounds to a finite number,
  and so does a product below it.
-/

namespace RepoVitals.Binary64

/-- The quotient that two natural numbers stand for. -/
def quotient (ratio : Nat × Nat) : ℚ := ratio.1 / ratio.2

/-- The magnitude of this rank, exactly. -/
def magnitude (rank : Nat) : ℚ := significandOfRank rank * 2 ^ exponentOfRank rank

theorem cast_pow (base count : Nat) : ((Nat.pow base count : Nat) : ℚ) = (base : ℚ) ^ count :=
  Nat.cast_pow base count

theorem zpow_natAbs_of_nonneg {base : ℚ} {exponent : Int} (nonneg : ¬exponent < 0) :
    base ^ exponent.natAbs = base ^ exponent := by
  rw [← zpow_natCast, Int.natAbs_of_nonneg (not_lt.mp nonneg)]

theorem zpow_natAbs_of_neg {base : ℚ} {exponent : Int} (negative : exponent < 0) :
    base ^ exponent.natAbs = (base ^ exponent)⁻¹ := by
  rw [← zpow_natCast, Int.ofNat_natAbs_of_nonpos negative.le, zpow_neg]

theorem two_zpow_pos (exponent : Int) : (0 : ℚ) < 2 ^ exponent := by positivity

theorem two_zpow_add (first second : Int) : (2 : ℚ) ^ (first + second) = 2 ^ first * 2 ^ second :=
  zpow_add₀ (by norm_num) first second

theorem two_zpow_le {first second : Int} (atMost : first ≤ second) :
    (2 : ℚ) ^ first ≤ 2 ^ second :=
  zpow_le_zpow_right₀ (by norm_num) atMost

/-! ### Scaling -/

theorem scaleDown_denominator_pos
    {denominator : Nat}
    (positive : 0 < denominator)
    (numerator : Nat)
    (exponent : Int) :
    0 < (scaleDown numerator denominator exponent).2 := by
  unfold scaleDown
  split
  · exact positive
  · exact Nat.mul_pos positive (Nat.pow_pos (by decide))

theorem quotient_scaleDown (numerator denominator : Nat) (exponent : Int) :
    quotient (scaleDown numerator denominator exponent) =
      quotient (numerator, denominator) / 2 ^ exponent := by
  unfold scaleDown quotient
  split
  · rename_i negative
    rw [Nat.cast_mul, cast_pow, Nat.cast_ofNat, zpow_natAbs_of_neg negative]
    have := two_zpow_pos exponent
    field_simp
  · rename_i nonneg
    rw [Nat.cast_mul, cast_pow, Nat.cast_ofNat, zpow_natAbs_of_nonneg nonneg]
    have := two_zpow_pos exponent
    field_simp

/-! ### The nearest integer -/

theorem div_le_roundHalfEven (numerator denominator : Nat) :
    numerator / denominator ≤ roundHalfEven numerator denominator := by
  unfold roundHalfEven
  dsimp only
  split
  · exact le_refl _
  · split <;> omega

theorem roundHalfEven_le (numerator : Nat) {denominator : Nat} (positive : 0 < denominator) :
    (roundHalfEven numerator denominator : ℚ) ≤ quotient (numerator, denominator) + 1 / 2 := by
  have parts := Nat.div_add_mod numerator denominator
  have bound : 2 * (denominator * roundHalfEven numerator denominator) ≤
      2 * numerator + denominator := by
    unfold roundHalfEven
    dsimp only
    split
    · omega
    · split
      · rw [Nat.mul_add]
        omega
      · rename_i notBelow notAbove
        have tie : 2 * (numerator % denominator) = denominator := by omega
        have parity := Nat.mod_lt (numerator / denominator) (show 0 < 2 by decide)
        have : denominator * (numerator / denominator % 2) ≤ denominator * 1 :=
          Nat.mul_le_mul_left _ (by omega)
        rw [Nat.mul_add]
        omega
  have cast : (2 : ℚ) * (denominator * roundHalfEven numerator denominator) ≤
      2 * numerator + denominator := by
    exact_mod_cast bound
  have positiveCast : (0 : ℚ) < denominator := by exact_mod_cast positive
  unfold quotient
  rw [div_add_div _ _ positiveCast.ne' (by norm_num), le_div_iff₀ (by positivity)]
  linarith

theorem le_quotient_iff {numerator denominator bound : Nat} (positive : 0 < denominator) :
    (bound : ℚ) ≤ quotient (numerator, denominator) ↔ bound ≤ numerator / denominator := by
  have positiveCast : (0 : ℚ) < denominator := by exact_mod_cast positive
  unfold quotient
  rw [le_div_iff₀ positiveCast, Nat.le_div_iff_mul_le positive]
  exact_mod_cast Iff.rfl

/-! ### The exponent of a quotient -/

theorem log2_bounds {value : Nat} (positive : 0 < value) :
    (2 : ℚ) ^ (value.log2 : Int) ≤ value ∧ (value : ℚ) < 2 ^ ((value.log2 : Int) + 1) := by
  constructor
  · have := Nat.log2_self_le positive.ne'
    rw [zpow_natCast]
    exact_mod_cast this
  · have := Nat.lt_log2_self (n := value)
    rw [← Nat.cast_succ, zpow_natCast]
    exact_mod_cast this

variable {numerator denominator : Nat}

/-- The logarithms of numerator and denominator tell a quotient up to a factor of two either way. -/
theorem quotient_log2_bounds (positive : 0 < numerator) (positiveBelow : 0 < denominator) :
    (2 : ℚ) ^ ((numerator.log2 : Int) - denominator.log2 - 1) < quotient (numerator, denominator) ∧
      quotient (numerator, denominator) < 2 ^ ((numerator.log2 : Int) - denominator.log2 + 1) := by
  have above := log2_bounds positive
  have below := log2_bounds positiveBelow
  have positiveCast : (0 : ℚ) < denominator := by exact_mod_cast positiveBelow
  unfold quotient
  constructor
  · rw [lt_div_iff₀ positiveCast]
    calc (2 : ℚ) ^ ((numerator.log2 : Int) - denominator.log2 - 1) * denominator
        < 2 ^ ((numerator.log2 : Int) - denominator.log2 - 1) *
            2 ^ ((denominator.log2 : Int) + 1) :=
          mul_lt_mul_of_pos_left below.2 (two_zpow_pos _)
      _ = 2 ^ (numerator.log2 : Int) := by
          rw [← two_zpow_add]
          congr 1
          ring
      _ ≤ numerator := above.1
  · rw [div_lt_iff₀ positiveCast]
    calc (numerator : ℚ) < 2 ^ ((numerator.log2 : Int) + 1) := above.2
      _ = 2 ^ ((numerator.log2 : Int) - denominator.log2 + 1) * 2 ^ (denominator.log2 : Int) := by
          rw [← two_zpow_add]
          congr 1
          ring
      _ ≤ 2 ^ ((numerator.log2 : Int) - denominator.log2 + 1) * denominator :=
          mul_le_mul_of_nonneg_left below.1 (two_zpow_pos _).le

theorem neg_1074_le_exponentFor (numerator denominator : Nat) :
    -1074 ≤ exponentFor numerator denominator :=
  le_max_right _ _

/-- At its exponent a quotient has an integer part below `2 ^ 53`, and one of at least `2 ^ 52`
unless the exponent is the least there is. -/
theorem exponentFor_bounds (positive : 0 < numerator) (positiveBelow : 0 < denominator) :
    quotient (numerator, denominator) < 2 ^ (exponentFor numerator denominator + 53) ∧
      (2 ^ (exponentFor numerator denominator + 52) ≤ quotient (numerator, denominator) ∨
        exponentFor numerator denominator = -1074) := by
  have bounds := quotient_log2_bounds positive positiveBelow
  -- The exponent before it is kept from falling below the least one.
  have before : ∀ estimate exponent : Int,
      estimate = (numerator.log2 : Int) - denominator.log2 - 52 →
      exponent = (if (scaleDown numerator denominator estimate).1 <
        leastNormal * (scaleDown numerator denominator estimate).2 then estimate - 1
        else estimate) →
      2 ^ (exponent + 52) ≤ quotient (numerator, denominator) ∧
        quotient (numerator, denominator) < 2 ^ (exponent + 53) := by
    intro estimate exponent isEstimate isExponent
    have scaledPositive : (0 : ℚ) < (scaleDown numerator denominator estimate).2 := by
      exact_mod_cast scaleDown_denominator_pos positiveBelow numerator estimate
    have compare : (scaleDown numerator denominator estimate).1 <
        leastNormal * (scaleDown numerator denominator estimate).2 ↔
        quotient (numerator, denominator) < 2 ^ (estimate + 52) := by
      have scaled := quotient_scaleDown numerator denominator estimate
      rw [quotient, div_eq_div_iff scaledPositive.ne' (two_zpow_pos _).ne'] at scaled
      rw [← Nat.cast_lt (α := ℚ), Nat.cast_mul, two_zpow_add,
        ← mul_lt_mul_iff_of_pos_right (two_zpow_pos estimate), scaled,
        show (leastNormal : ℚ) * (scaleDown numerator denominator estimate).2 * 2 ^ estimate =
          2 ^ estimate * 2 ^ (52 : Int) * (scaleDown numerator denominator estimate).2 by
            norm_num [leastNormal]; ring,
        mul_lt_mul_iff_of_pos_right scaledPositive]
    split at isExponent
    · rename_i below
      constructor
      · rw [show exponent + 52 = (numerator.log2 : Int) - denominator.log2 - 1 by omega]
        exact bounds.1.le
      · rw [show exponent + 53 = estimate + 52 by omega]
        exact compare.mp below
    · rename_i notBelow
      constructor
      · rw [isExponent]
        exact not_lt.mp (fun below => notBelow (compare.mpr below))
      · rw [show exponent + 53 = (numerator.log2 : Int) - denominator.log2 + 1 by omega]
        exact bounds.2
  obtain ⟨atLeast, below⟩ := before _ _ rfl rfl
  unfold exponentFor
  dsimp only
  rcases le_total (-1074) (if (scaleDown numerator denominator
      ((numerator.log2 : Int) - denominator.log2 - 52)).1 < leastNormal *
      (scaleDown numerator denominator ((numerator.log2 : Int) - denominator.log2 - 52)).2
      then (numerator.log2 : Int) - denominator.log2 - 52 - 1
      else (numerator.log2 : Int) - denominator.log2 - 52) with inside | outside
  · rw [max_eq_left inside]
    exact ⟨below, Or.inl atLeast⟩
  · rw [max_eq_right outside]
    exact ⟨below.trans_le (two_zpow_le (by omega)), Or.inr rfl⟩

/-! ### The nearest magnitude -/

/-- A significand that was rounded up to `2 ^ 53` is carried into the exponent. -/
theorem magnitude_of_parts
    {exponent : Int}
    {significand : Nat}
    (atLeast : -1074 ≤ exponent)
    (atMost : significand ≤ 2 * leastNormal)
    (normal : leastNormal ≤ significand ∨ exponent = -1074) :
    magnitude ((exponent + 1074).toNat * leastNormal + significand) =
      significand * 2 ^ exponent := by
  obtain ⟨steps, isExponent⟩ : ∃ steps : Nat, exponent = steps - 1074 :=
    ⟨(exponent + 1074).toNat, by omega⟩
  have isSteps : (exponent + 1074).toNat = steps := by omega
  rw [isSteps, magnitude, significandOfRank, exponentOfRank]
  by_cases below : steps * leastNormal + significand < leastNormal
  · have isLeast : steps = 0 := by
      rcases Nat.eq_zero_or_pos steps with isZero | positive
      · exact isZero
      · have := Nat.le_mul_of_pos_left leastNormal positive
        omega
    rw [if_pos below, if_pos below, isExponent, isLeast]
    norm_num
  · rw [if_neg below, if_neg below]
    have positive : 0 < leastNormal := by decide
    by_cases carried : significand = 2 * leastNormal
    · have isRank : steps * leastNormal + significand = (steps + 2) * leastNormal := by
        rw [carried, Nat.add_mul]
      rw [isRank, Nat.mul_mod_left, Nat.mul_div_cancel _ positive, carried, isExponent,
        show ((steps + 2 : Nat) : Int) - 1075 = steps - 1074 + 1 by omega, two_zpow_add]
      push_cast
      ring
    · have isNormal : leastNormal ≤ significand := by
        rcases normal with isNormal | isLeast
        · exact isNormal
        · have : steps = 0 := by omega
          rw [this] at below
          omega
      have isRank : steps * leastNormal + significand =
          (significand - leastNormal) + (steps + 1) * leastNormal := by
        rw [Nat.add_mul]
        omega
      have inside : significand - leastNormal < leastNormal := by omega
      rw [isRank, Nat.add_mul_mod_self_right, Nat.mod_eq_of_lt inside,
        Nat.add_mul_div_right _ _ positive, Nat.div_eq_of_lt inside, isExponent,
        show leastNormal + (significand - leastNormal) = significand by omega,
        show ((0 + (steps + 1) : Nat) : Int) - 1075 = steps - 1074 by omega]

theorem nearestRank_of_pos (positive : 0 < numerator) :
    nearestRank numerator denominator =
      (exponentFor numerator denominator + 1074).toNat * leastNormal +
        roundHalfEven (scaleDown numerator denominator (exponentFor numerator denominator)).1
          (scaleDown numerator denominator (exponentFor numerator denominator)).2 := by
  rw [nearestRank, if_neg positive.ne']

/-- The significand that a quotient is rounded to: at most half a place above the quotient. -/
theorem significand_bounds (positive : 0 < numerator) (positiveBelow : 0 < denominator) :
    let exponent := exponentFor numerator denominator
    let significand := roundHalfEven (scaleDown numerator denominator exponent).1
      (scaleDown numerator denominator exponent).2
    (significand : ℚ) ≤ quotient (numerator, denominator) / 2 ^ exponent + 1 / 2 ∧
      significand ≤ 2 * leastNormal ∧ (leastNormal ≤ significand ∨ exponent = -1074) := by
  intro exponent significand
  obtain ⟨below, normal⟩ := exponentFor_bounds positive positiveBelow
  have scaledPositive := scaleDown_denominator_pos positiveBelow numerator exponent
  have atMost : (significand : ℚ) ≤ quotient (numerator, denominator) / 2 ^ exponent + 1 / 2 := by
    rw [← quotient_scaleDown]
    exact roundHalfEven_le _ scaledPositive
  refine ⟨atMost, ?_, ?_⟩
  · have scaledBelow : quotient (numerator, denominator) / 2 ^ exponent < 2 * leastNormal := by
      rw [div_lt_iff₀ (two_zpow_pos exponent)]
      calc quotient (numerator, denominator) < 2 ^ (exponent + 53) := below
        _ = 2 * leastNormal * 2 ^ exponent := by
          rw [two_zpow_add]
          norm_num [leastNormal]
          ring
    have cast : (significand : ℚ) < (2 * leastNormal + 1 : Nat) := by
      push_cast
      linarith
    have : significand < 2 * leastNormal + 1 := by exact_mod_cast cast
    omega
  · rcases normal with isNormal | isLeast
    · left
      have scaled : (leastNormal : ℚ) ≤ quotient (scaleDown numerator denominator exponent) := by
        rw [quotient_scaleDown, le_div_iff₀ (two_zpow_pos exponent)]
        calc (leastNormal : ℚ) * 2 ^ exponent = 2 ^ (exponent + 52) := by
              rw [two_zpow_add]
              norm_num [leastNormal]
              ring
          _ ≤ quotient (numerator, denominator) := isNormal
      exact ((le_quotient_iff scaledPositive).mp scaled).trans (div_le_roundHalfEven _ _)
    · exact Or.inr isLeast

theorem magnitude_nearestRank (positive : 0 < numerator) (positiveBelow : 0 < denominator) :
    magnitude (nearestRank numerator denominator) =
      roundHalfEven (scaleDown numerator denominator (exponentFor numerator denominator)).1
        (scaleDown numerator denominator (exponentFor numerator denominator)).2 *
        2 ^ exponentFor numerator denominator := by
  obtain ⟨-, atMost, normal⟩ := significand_bounds positive positiveBelow
  rw [nearestRank_of_pos positive,
    magnitude_of_parts (neg_1074_le_exponentFor _ _) atMost normal]

theorem magnitude_zero : magnitude 0 = 0 := by
  rw [magnitude, significandOfRank, if_pos (by decide), Nat.cast_zero, zero_mul]

/-- Rounding an integer adds at most half a place to it. -/
theorem magnitude_nearestRank_natural (value : Nat) :
    magnitude (nearestRank value 1) ≤ value * (1 + 1 / 2 ^ 53) := by
  rcases Nat.eq_zero_or_pos value with isZero | positive
  · rw [isZero, nearestRank, if_pos rfl, magnitude_zero]
    norm_num
  · obtain ⟨atMost, -, -⟩ := significand_bounds positive Nat.one_pos
    have isValue : quotient (value, 1) = value := by rw [quotient, Nat.cast_one, div_one]
    rw [isValue] at atMost
    rw [magnitude_nearestRank positive Nat.one_pos]
    have scale := two_zpow_pos (exponentFor value 1)
    -- Half a place is the integer's own `2 ^ 53`-th part at most, also for the integer one.
    have halfPlace : (2 : ℚ) ^ exponentFor value 1 / 2 ≤ value * (1 / 2 ^ 53) := by
      rcases (exponentFor_bounds positive Nat.one_pos).2 with isNormal | isLeast
      · rw [isValue, two_zpow_add] at isNormal
        norm_num at isNormal ⊢
        linarith
      · have one : (1 : ℚ) ≤ value := by exact_mod_cast positive
        have least : (2 : ℚ) ^ exponentFor value 1 ≤ 2 ^ (-52 : Int) :=
          two_zpow_le (by omega)
        norm_num at least ⊢
        linarith
    calc (roundHalfEven (scaleDown value 1 (exponentFor value 1)).1
          (scaleDown value 1 (exponentFor value 1)).2 : ℚ) * 2 ^ exponentFor value 1
        ≤ (value / 2 ^ exponentFor value 1 + 1 / 2) * 2 ^ exponentFor value 1 :=
          mul_le_mul_of_nonneg_right atMost scale.le
      _ = value + 2 ^ exponentFor value 1 / 2 := by
          field_simp
      _ ≤ value * (1 + 1 / 2 ^ 53) := by linarith

/-- What lies below the middle between the greatest finite number and the next power of two is
rounded to a finite number. -/
theorem nearestRank_lt_infinityRank
    (positiveBelow : 0 < denominator)
    (small : quotient (numerator, denominator) < (2 ^ 53 - 1 / 2) * 2 ^ (971 : Int)) :
    nearestRank numerator denominator < infinityRank := by
  rcases Nat.eq_zero_or_pos numerator with isZero | positive
  · rw [isZero, nearestRank, if_pos rfl]
    decide
  · obtain ⟨significandAtMost, atMost, -⟩ := significand_bounds positive positiveBelow
    have atLeast := neg_1074_le_exponentFor numerator denominator
    rw [nearestRank_of_pos positive]
    rcases lt_trichotomy (exponentFor numerator denominator) 971 with low | last | high
    · have : (exponentFor numerator denominator + 1074).toNat * leastNormal ≤ 2044 * leastNormal :=
        Nat.mul_le_mul_right _ (by omega)
      have isInfinity : infinityRank = 2047 * leastNormal := rfl
      have : 0 < leastNormal := by decide
      omega
    · rw [last] at significandAtMost atMost ⊢
      have scale := two_zpow_pos 971
      have below : quotient (numerator, denominator) / 2 ^ (971 : Int) < 2 ^ 53 - 1 / 2 :=
        (div_lt_iff₀ scale).mpr small
      have places : ((2 * leastNormal : Nat) : ℚ) = 2 ^ 53 := by norm_num [leastNormal]
      have cast : (roundHalfEven (scaleDown numerator denominator 971).1
          (scaleDown numerator denominator 971).2 : ℚ) < (2 * leastNormal : Nat) := by
        rw [places]
        linarith
      have strict : roundHalfEven (scaleDown numerator denominator 971).1
          (scaleDown numerator denominator 971).2 < 2 * leastNormal := by
        exact_mod_cast cast
      have isInfinity : infinityRank = 2047 * leastNormal := rfl
      rw [show ((971 : Int) + 1074).toNat = 2045 by decide]
      omega
    · exfalso
      rcases (exponentFor_bounds positive positiveBelow).2 with isNormal | isLeast
      · have far : (2 : ℚ) ^ ((971 : Int) + 53) ≤ 2 ^ (exponentFor numerator denominator + 52) :=
          two_zpow_le (by omega)
        have scale := two_zpow_pos 971
        rw [two_zpow_add, show (2 : ℚ) ^ (53 : Int) = 2 ^ 53 from zpow_natCast 2 53] at far
        generalize (2 : ℚ) ^ (971 : Int) = unit at far small scale
        linarith
      · omega

/-! ### Products -/

theorem ofRank_eq {rank : Nat} (negative : Bool) (finite : rank < infinityRank) :
    ofRank negative rank = .signed negative ⟨rank, Nat.lt_succ_of_lt finite⟩ := by
  simp only [ofRank, Nat.min_eq_left finite.le]

theorem isInfinite_ofRank {negative : Bool} {rank : Nat} (finite : rank < infinityRank) :
    (ofRank negative rank).isInfinite = false := by
  rw [ofRank_eq negative finite, isInfinite]
  exact beq_false_of_ne finite.ne

theorem isInfinite_ofScaled
    {significand : Nat}
    {exponent : Int}
    (negative : Bool)
    (small : significand * (2 : ℚ) ^ exponent < (2 ^ 53 - 1 / 2) * 2 ^ (971 : Int)) :
    (ofScaled negative significand exponent).isInfinite = false := by
  unfold ofScaled
  split
  · rename_i below
    apply isInfinite_ofRank
    apply nearestRank_lt_infinityRank (Nat.pow_pos (by decide))
    show (significand : ℚ) / (Nat.pow 2 exponent.natAbs : Nat) < _
    rwa [cast_pow, Nat.cast_ofNat, zpow_natAbs_of_neg below, div_inv_eq_mul]
  · rename_i nonneg
    apply isInfinite_ofRank
    apply nearestRank_lt_infinityRank Nat.one_pos
    show ((significand * Nat.pow 2 exponent.natAbs : Nat) : ℚ) / (1 : Nat) < _
    rwa [Nat.cast_mul, cast_pow, Nat.cast_ofNat, zpow_natAbs_of_nonneg nonneg, Nat.cast_one,
      div_one]

theorem isInfinite_multiply
    {left right : Nat}
    (leftFinite : left < infinityRank)
    (rightFinite : right < infinityRank)
    (small : magnitude left * magnitude right < (2 ^ 53 - 1 / 2) * 2 ^ (971 : Int)) :
    ((ofRank false left).multiply (ofRank false right)).isInfinite = false := by
  rw [ofRank_eq false leftFinite, ofRank_eq false rightFinite, multiply]
  dsimp only
  rw [if_neg leftFinite.ne, if_neg rightFinite.ne]
  apply isInfinite_ofScaled
  rw [magnitude, magnitude] at small
  rw [Nat.cast_mul, two_zpow_add]
  linarith

end RepoVitals.Binary64

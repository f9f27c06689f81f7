import RepoVitals.Proofs.Binary64.Shortest
import RepoVitals.Proofs.Json.Numeral
/-!
Floating-point numbers that are written and read.

Owns:
- the numeral of a decimal, in positions or with an exponent;
- what keeps the reading of a numeral from overflowing;
- `isSome_number?_ofRank`: every finite number is written as a numeral that is read as a number.

Reading is not exact: two roundings can carry a numeral one place further.  For all but the two
greatest magnitudes that stays below infinity on general grounds.
-/

namespace RepoVitals.Json

open Binary64 (Decimal magnitude naturalOfDigits nearestRank ofRatio shortestDecimal)

namespace Numeral

/-! ### The value of a numeral -/

/-- An exponent as an integer. -/
def exponentValue : Option (Bool × List Char) → Int
  | none => 0
  | some (negative, digits) =>
    if negative then -(naturalOfDigits digits : Int) else naturalOfDigits digits

/-- All digits of a numeral as one integer. -/
def significand (numeral : Numeral) : Nat := naturalOfDigits (numeral.whole ++ numeral.fraction)

/-- The power of ten of the last digit. -/
def place (numeral : Numeral) : Int := exponentValue numeral.exponent - numeral.fraction.length

/-! ### Gathering digits -/

theorem le_ofDigitChars (value : Nat) (digits : List Char) :
    value ≤ Nat.ofDigitChars 10 digits value := by
  induction digits generalizing value with
  | nil => exact le_refl _
  | cons digit digits inductionHypothesis =>
    rw [Nat.ofDigitChars_cons]
    apply le_trans _ (inductionHypothesis _)
    omega

/-- Digits that make an integer of 64 bits are all taken. -/
theorem gather_eq
    {value : Nat}
    {digits : List Char}
    (fits : Nat.ofDigitChars 10 digits value ≤ greatestUInt64) :
    gather value digits = (Nat.ofDigitChars 10 digits value, []) := by
  induction digits generalizing value with
  | nil => rfl
  | cons digit digits inductionHypothesis =>
    rw [Nat.ofDigitChars_cons,
      show digit.toNat - '0'.toNat = Binary64.digitValue digit from rfl] at fits ⊢
    have notPast := (le_ofDigitChars _ digits).trans fits
    rw [gather, if_neg (not_lt.mpr notPast)]
    exact inductionHypothesis fits

theorem float?_eq {numeral : Numeral} (fits : numeral.significand ≤ greatestUInt64) :
    numeral.float? =
      numeral.withExponent? numeral.significand (-(numeral.fraction.length : Int)) := by
  have whole : Nat.ofDigitChars 10 numeral.fraction (naturalOfDigits numeral.whole) =
      numeral.significand := (Nat.ofDigitChars_append 0).symm
  have fitsWhole := (le_ofDigitChars (naturalOfDigits numeral.whole) numeral.fraction).trans
    (whole ▸ fits)
  unfold float?
  rw [gather_eq fitsWhole]
  dsimp only
  rw [show Nat.ofDigitChars 10 numeral.whole 0 = naturalOfDigits numeral.whole from rfl,
    gather_eq (whole ▸ fits), whole]
  simp

/-! ### Scaling -/

/-- What may be read without fear of overflow: two and a half places below the power of two past
the greatest number. -/
def safeLimit : ℚ := (2 ^ 53 - 5 / 2) * 2 ^ (971 : Int)

theorem safeLimit_lt : safeLimit < (2 ^ 53 - 1 / 2) * 2 ^ (971 : Int) :=
  mul_lt_mul_of_pos_right (by norm_num) (Binary64.two_zpow_pos _)

theorem mul_two_zpow_le_ten_pow
    {factor count places : Nat}
    (atMost : factor * Nat.pow 2 count ≤ Nat.pow 10 places) :
    (factor : ℚ) * 2 ^ (count : Int) ≤ 10 ^ places := by
  rw [zpow_natCast]
  exact_mod_cast atMost

theorem ten_pow_lt_mul_two_zpow
    {factor count places : Nat}
    (below : Nat.pow 10 places < factor * Nat.pow 2 count) :
    (10 : ℚ) ^ places < factor * 2 ^ (count : Int) := by
  rw [zpow_natCast]
  exact_mod_cast below

theorem safeLimit_lt_ten_pow : safeLimit < 10 ^ 309 := by
  have places : (9007199254740992 : Nat) * (2 : ℚ) ^ (971 : Int) ≤ 10 ^ 309 :=
    mul_two_zpow_le_ten_pow (by decide +kernel)
  have scale := Binary64.two_zpow_pos 971
  unfold safeLimit
  generalize (2 : ℚ) ^ (971 : Int) = unit at *
  generalize (10 : ℚ) ^ 309 = power at *
  push_cast at places
  linarith

theorem ten_pow_308_lt : (10 : ℚ) ^ 308 < (2 ^ 53 - 1 / 2) * 2 ^ (971 : Int) := by
  have places : (10 : ℚ) ^ 308 < (9007199254740991 : Nat) * 2 ^ (971 : Int) :=
    ten_pow_lt_mul_two_zpow (by decide +kernel)
  have scale := Binary64.two_zpow_pos 971
  generalize (2 : ℚ) ^ (971 : Int) = unit at *
  generalize (10 : ℚ) ^ 308 = power at *
  push_cast at places
  linarith

theorem quotient_one (value : Nat) : Binary64.quotient (value, 1) = value := by
  rw [Binary64.quotient, Nat.cast_one, div_one]

/-- The powers of ten that are taken in one step are finite. -/
theorem nearestRank_ten_pow_lt {exponent : Nat} (atMost : exponent ≤ 308) :
    nearestRank (Nat.pow 10 exponent) 1 < infinityRank := by
  apply Binary64.nearestRank_lt_infinityRank Nat.one_pos
  rw [quotient_one, Binary64.cast_pow, Nat.cast_ofNat]
  exact (pow_le_pow_right₀ (by norm_num) atMost).trans_lt ten_pow_308_lt

theorem isSome_raise?
    {significand exponent : Nat}
    (small : (significand : ℚ) * 10 ^ exponent ≤ safeLimit) :
    (raise? (ofRatio false significand 1) exponent).isSome = true := by
  have power : (1 : ℚ) ≤ 10 ^ exponent := one_le_pow₀ (by norm_num)
  have nonneg : (0 : ℚ) ≤ significand := Nat.cast_nonneg _
  unfold raise?
  by_cases far : 308 < exponent
  · have isZero : significand = 0 := by
      by_contra positive
      have one : (1 : ℚ) ≤ significand := by exact_mod_cast Nat.pos_of_ne_zero positive
      have atLeast : (10 : ℚ) ^ 309 ≤ 10 ^ exponent := pow_le_pow_right₀ (by norm_num) far
      have product := le_mul_of_one_le_left (zero_le_one.trans power) one
      exact absurd (atLeast.trans (product.trans small)) (not_le.mpr safeLimit_lt_ten_pow)
    rw [if_pos far, isZero]
    rfl
  · rw [if_neg far]
    have leftFinite : nearestRank significand 1 < infinityRank := by
      apply Binary64.nearestRank_lt_infinityRank Nat.one_pos
      rw [quotient_one]
      exact ((le_mul_of_one_le_right nonneg power).trans small).trans_lt safeLimit_lt
    have rightFinite := nearestRank_ten_pow_lt (not_lt.mp far)
    have left := Binary64.magnitude_nearestRank_natural significand
    have right := Binary64.magnitude_nearestRank_natural (Nat.pow 10 exponent)
    rw [Binary64.cast_pow, Nat.cast_ofNat] at right
    -- Both roundings together add less than the two places that are left.
    have product : magnitude (nearestRank significand 1) *
        magnitude (nearestRank (Nat.pow 10 exponent) 1) < (2 ^ 53 - 1 / 2) * 2 ^ (971 : Int) := by
      calc magnitude (nearestRank significand 1) * magnitude (nearestRank (Nat.pow 10 exponent) 1)
          ≤ significand * (1 + 1 / 2 ^ 53) * (10 ^ exponent * (1 + 1 / 2 ^ 53)) := by
            apply mul_le_mul left right
            · exact mul_nonneg (Nat.cast_nonneg _) (Binary64.two_zpow_pos _).le
            · positivity
        _ = significand * 10 ^ exponent * ((1 + 1 / 2 ^ 53) * (1 + 1 / 2 ^ 53)) := by ring
        _ ≤ safeLimit * ((1 + 1 / 2 ^ 53) * (1 + 1 / 2 ^ 53)) :=
          mul_le_mul_of_nonneg_right small (by positivity)
        _ = (2 ^ 53 - 5 / 2) * ((1 + 1 / 2 ^ 53) * (1 + 1 / 2 ^ 53)) * 2 ^ (971 : Int) := by
          rw [safeLimit]
          ring
        _ < (2 ^ 53 - 1 / 2) * 2 ^ (971 : Int) :=
          mul_lt_mul_of_pos_right (by norm_num) (Binary64.two_zpow_pos _)
    dsimp only
    rw [ofRatio, ofRatio, Binary64.isInfinite_multiply leftFinite rightFinite product]
    rfl

theorem isSome_scaled?
    {significand : Nat}
    {exponent : Int}
    (negative : Bool)
    (small : 0 ≤ exponent → (significand : ℚ) * 10 ^ exponent ≤ safeLimit) :
    (scaled? negative significand exponent).isSome = true := by
  unfold scaled?
  dsimp only
  rw [Option.isSome_map]
  split
  · rename_i nonneg
    apply isSome_raise?
    rw [← zpow_natCast, Int.toNat_of_nonneg nonneg]
    exact small nonneg
  · rfl

/-- A numeral is read as a number if it has digits for 64 bits, an exponent for 32, and a value
that is safe. -/
theorem isSome_float?
    {numeral : Numeral}
    (fits : numeral.significand ≤ greatestUInt64)
    (counted : ∀ found ∈ numeral.exponent, naturalOfDigits found.2 ≤ greatestExponent)
    (small : (numeral.significand : ℚ) * 10 ^ numeral.place ≤ safeLimit) :
    numeral.float?.isSome = true := by
  rw [float?_eq fits]
  unfold withExponent?
  rw [place] at small
  cases isExponent : numeral.exponent with
  | none =>
    rw [isExponent, exponentValue, zero_sub] at small
    exact isSome_scaled? _ (fun _ => small)
  | some found =>
    obtain ⟨negative, digits⟩ := found
    have notFar := counted (negative, digits) isExponent
    dsimp only at notFar ⊢
    rw [if_neg (not_lt.mpr notFar)]
    apply isSome_scaled?
    -- An exponent that is not negative is at most cut down to 32 bits.
    intro nonneg
    rw [isExponent, exponentValue] at small
    apply le_trans _ small
    apply mul_le_mul_of_nonneg_left _ (Nat.cast_nonneg _)
    apply zpow_le_zpow_right₀ (by norm_num)
    cases negative with
    | true =>
      simp only [if_true] at nonneg ⊢
      omega
    | false =>
      simp only [Bool.false_eq_true, if_false] at nonneg ⊢
      omega

/-! ### The numeral of a decimal -/

/-- The numeral that a decimal is written as. -/
def ofDecimal (decimal : Decimal) : Numeral :=
  let digits := digitsOf decimal.digits
  let point : Int := digits.length + decimal.exponent
  if 0 ≤ decimal.exponent ∧ point ≤ 16 then
    ⟨false, digits ++ List.replicate decimal.exponent.toNat '0', ['0'], none⟩
  else if 0 < point ∧ point ≤ 16 then
    ⟨false, digits.take point.toNat, digits.drop point.toNat, none⟩
  else if -5 < point ∧ point ≤ 0 then
    ⟨false, ['0'], List.replicate point.natAbs '0' ++ digits, none⟩
  else ⟨false, digits.take 1, digits.drop 1, some (point - 1 < 0, digitsOf (point - 1).natAbs)⟩

/-- Either there is a fraction or an exponent, so that the numeral is no integer. -/
theorem ofDecimal_not_plain (decimal : Decimal) :
    ¬((ofDecimal decimal).fraction = [] ∧ (ofDecimal decimal).exponent = none) := by
  have some := digitsOf_ne_nil decimal.digits
  unfold ofDecimal
  dsimp only
  split
  · simp
  · split
    · simp only [List.drop_eq_nil_iff]
      omega
    · split <;> simp [some]

theorem letters_ofDecimal (decimal : Decimal) :
    (ofDecimal decimal).letters = renderDecimal decimal := by
  unfold ofDecimal renderDecimal letters unsignedLetters
  dsimp only
  split
  · simp [exponentLetters]
  · split
    · have some : (digitsOf decimal.digits).drop
          ((digitsOf decimal.digits).length + decimal.exponent).toNat ≠ [] := by
        rw [ne_eq, List.drop_eq_nil_iff]
        omega
      simp [exponentLetters, some]
    · split
      · simp [exponentLetters, digitsOf_ne_nil]
      · have length := List.length_pos_iff.mpr (digitsOf_ne_nil decimal.digits)
        have single : (digitsOf decimal.digits).length = 1 ↔
            (digitsOf decimal.digits).drop 1 = [] := by
          rw [List.drop_eq_nil_iff]
          omega
        simp only [single, exponentLetters]
        by_cases alone : (digitsOf decimal.digits).drop 1 = [] <;>
          by_cases below : (digitsOf decimal.digits).length + decimal.exponent - 1 < 0 <;>
            simp [alone, below]

theorem wellFormed_ofDecimal {decimal : Decimal} (positive : 0 < decimal.digits) :
    (ofDecimal decimal).WellFormed := by
  have some := digitsOf_ne_nil decimal.digits
  have areDigits : ∀ digit ∈ digitsOf decimal.digits, digit.isDigit = true :=
    fun _ member => isDigit_of_mem_digitsOf member
  have zeros : ∀ count, ∀ digit ∈ List.replicate count '0', digit.isDigit = true := by
    intro count digit member
    rw [List.eq_of_mem_replicate member]
    rfl
  have leads := head?_digitsOf positive
  unfold ofDecimal
  dsimp only
  split
  · constructor
    · simp [some]
    · exact fun digit member => (List.mem_append.mp member).elim (areDigits digit) (zeros _ digit)
    · rw [List.head?_append_of_ne_nil _ some]
      exact fun zero => absurd zero leads
    · simp
    · simp
  · split
    · constructor
      · simp only [ne_eq, List.take_eq_nil_iff, some, or_false]
        omega
      · exact fun digit member => areDigits digit (List.mem_of_mem_take member)
      · rw [List.head?_take, if_neg (by omega)]
        exact fun zero => absurd zero leads
      · exact fun digit member => areDigits digit (List.mem_of_mem_drop member)
      · simp
    · split
      · constructor
        · simp
        · simp
        · simp
        · exact fun digit member =>
            (List.mem_append.mp member).elim (zeros _ digit) (areDigits digit)
        · simp
      · constructor
        · simp [some]
        · exact fun digit member => areDigits digit (List.mem_of_mem_take member)
        · rw [List.head?_take, if_neg (by decide)]
          exact fun zero => absurd zero leads
        · exact fun digit member => areDigits digit (List.mem_of_mem_drop member)
        · intro found isFound
          rw [Option.mem_some_iff] at isFound
          rw [← isFound]
          exact ⟨digitsOf_ne_nil _, fun _ member => isDigit_of_mem_digitsOf member⟩

theorem naturalOfDigits_append (first second : List Char) :
    naturalOfDigits (first ++ second) =
      Nat.ofDigitChars 10 second (naturalOfDigits first) :=
  Nat.ofDigitChars_append 0

theorem naturalOfDigits_zeros (count : Nat) (digits : List Char) :
    naturalOfDigits (List.replicate count '0' ++ digits) = naturalOfDigits digits := by
  rw [naturalOfDigits_append]
  show Nat.ofDigitChars 10 digits (Nat.ofDigitChars 10 (List.replicate count '0') 0) = _
  rw [Nat.ofDigitChars_replicate_zero, Nat.mul_zero]
  rfl

theorem exponentValue_signed (value : Int) :
    exponentValue (some (decide (value < 0), digitsOf value.natAbs)) = value := by
  simp only [exponentValue, naturalOfDigits_digitsOf, decide_eq_true_eq]
  split <;> omega

/-- The digits and the place of the last digit are those of the decimal, but for zeros that were
written up to the point and one after it. -/
theorem parts_ofDecimal (decimal : Decimal) :
    ((ofDecimal decimal).significand = decimal.digits ∧
        (ofDecimal decimal).place = decimal.exponent) ∨
      ∃ zeros : Nat, decimal.exponent = zeros ∧ (digitsOf decimal.digits).length + zeros ≤ 16 ∧
        (ofDecimal decimal).significand = Nat.pow 10 (zeros + 1) * decimal.digits ∧
        (ofDecimal decimal).place = -1 := by
  have length := List.length_pos_iff.mpr (digitsOf_ne_nil decimal.digits)
  unfold ofDecimal
  dsimp only
  split
  · right
    refine ⟨decimal.exponent.toNat, by omega, by omega, ?_, rfl⟩
    show naturalOfDigits (digitsOf decimal.digits ++
      List.replicate decimal.exponent.toNat '0' ++ ['0']) = _
    rw [List.append_assoc, ← List.replicate_succ', naturalOfDigits_append,
      Nat.ofDigitChars_replicate_zero, naturalOfDigits_digitsOf]
    rfl
  · left
    split
    · constructor
      · rw [significand, List.take_append_drop, naturalOfDigits_digitsOf]
      · simp only [place, exponentValue, List.length_drop]
        omega
    · split
      · constructor
        · rw [significand, ← List.append_assoc, ← List.replicate_one,
            List.replicate_append_replicate, naturalOfDigits_zeros, naturalOfDigits_digitsOf]
        · simp only [place, exponentValue, List.length_append, List.length_replicate]
          omega
      · constructor
        · rw [significand, List.take_append_drop, naturalOfDigits_digitsOf]
        · rw [place, exponentValue_signed, List.length_drop]
          omega

/-- The numeral of a decimal has the value of the decimal. -/
theorem value_ofDecimal (decimal : Decimal) :
    ((ofDecimal decimal).significand : ℚ) * 10 ^ (ofDecimal decimal).place = decimal.value := by
  rcases parts_ofDecimal decimal with ⟨isSignificand, isPlace⟩ |
    ⟨zeros, isExponent, -, isSignificand, isPlace⟩
  · rw [isSignificand, isPlace, Decimal.value]
  · rw [isSignificand, isPlace, Decimal.value, isExponent, Nat.cast_mul, Binary64.cast_pow,
      Nat.cast_ofNat, zpow_natCast, pow_succ, zpow_neg_one]
    ring

theorem significand_ofDecimal_le
    {decimal : Decimal}
    (short : decimal.digits ≤ 100000000000000000) :
    (ofDecimal decimal).significand ≤ 100000000000000000 := by
  rcases parts_ofDecimal decimal with ⟨isSignificand, -⟩ | ⟨zeros, -, few, isSignificand, -⟩
  · rwa [isSignificand]
  · have below : decimal.digits < Nat.pow 10 (digitsOf decimal.digits).length :=
      (Nat.length_toDigits_le_iff (by decide) Nat.length_toDigits_pos).mp (le_refl _)
    rw [isSignificand]
    calc Nat.pow 10 (zeros + 1) * decimal.digits
        ≤ Nat.pow 10 (zeros + 1) * Nat.pow 10 (digitsOf decimal.digits).length :=
          Nat.mul_le_mul_left _ below.le
      _ = Nat.pow 10 (zeros + 1 + (digitsOf decimal.digits).length) := (Nat.pow_add ..).symm
      _ ≤ Nat.pow 10 17 := Nat.pow_le_pow_right (by decide) (by omega)
      _ = 100000000000000000 := rfl

/-! ### Finite numbers -/

theorem significandOfRank_le_of_last
    {rank : Nat}
    (notLast : rank + 3 ≤ infinityRank)
    (isLast : Binary64.exponentOfRank rank = 971) :
    Binary64.significandOfRank rank ≤ 9007199254740989 := by
  have places : leastNormal = 4503599627370496 := rfl
  have isInfinity : infinityRank = 2047 * leastNormal := rfl
  have parts := Nat.div_add_mod rank leastNormal
  unfold Binary64.exponentOfRank at isLast
  unfold Binary64.significandOfRank
  split at isLast
  · omega
  · rename_i normal
    rw [if_neg normal]
    have quotient : rank / leastNormal = 2046 := by omega
    rw [quotient] at parts
    omega

/-- All but the two greatest finite magnitudes are so far below infinity that their decimals can be
read safely. -/
theorem value_le_safeLimit
    {decimal : Decimal}
    {rank : Nat}
    (near : decimal.Near rank)
    (notLast : rank + 3 ≤ infinityRank) :
    decimal.value ≤ safeLimit := by
  apply near.value_le.trans
  have finite : rank < infinityRank := by omega
  have scale := Binary64.two_zpow_pos (Binary64.exponentOfRank rank)
  have exponentAtMost := (Binary64.exponentOfRank_bounds finite).2
  rcases exponentAtMost.lt_or_eq with lower | isLast
  · have significandAtMost : (Binary64.significandOfRank rank : ℚ) ≤ 9007199254740991 := by
      have below := Binary64.significandOfRank_lt rank
      have places : leastNormal = 4503599627370496 := rfl
      have atMost : Binary64.significandOfRank rank ≤ 9007199254740991 := by omega
      exact_mod_cast atMost
    have half : (2 : ℚ) ^ Binary64.exponentOfRank rank * 2 ≤ 2 ^ (971 : Int) := by
      calc (2 : ℚ) ^ Binary64.exponentOfRank rank * 2 = 2 ^ (Binary64.exponentOfRank rank + 1) := by
            rw [Binary64.two_zpow_add, zpow_one]
        _ ≤ 2 ^ (971 : Int) := Binary64.two_zpow_le (by omega)
    calc ((Binary64.significandOfRank rank : ℚ) + 1 / 2) * 2 ^ Binary64.exponentOfRank rank
        ≤ (9007199254740991 + 1 / 2) * 2 ^ Binary64.exponentOfRank rank :=
          mul_le_mul_of_nonneg_right (by linarith) scale.le
      _ = (9007199254740991 + 1 / 2) / 2 * (2 ^ Binary64.exponentOfRank rank * 2) := by ring
      _ ≤ (9007199254740991 + 1 / 2) / 2 * 2 ^ (971 : Int) :=
          mul_le_mul_of_nonneg_left half (by norm_num)
      _ ≤ safeLimit :=
          mul_le_mul_of_nonneg_right (by norm_num) (Binary64.two_zpow_pos 971).le
  · have significandAtMost : (Binary64.significandOfRank rank : ℚ) ≤ 9007199254740989 := by
      exact_mod_cast significandOfRank_le_of_last notLast isLast
    rw [isLast] at scale ⊢
    apply mul_le_mul_of_nonneg_right _ scale.le
    norm_num
    linarith

theorem exponentDigits_ofDecimal (decimal : Decimal) :
    ∀ found ∈ (ofDecimal decimal).exponent,
      naturalOfDigits found.2 =
        ((digitsOf decimal.digits).length + decimal.exponent - 1 : Int).natAbs := by
  intro found
  unfold ofDecimal
  dsimp only
  split
  · simp
  · split
    · simp
    · split
      · simp
      · intro isFound
        rw [Option.mem_some_iff] at isFound
        rw [← isFound, naturalOfDigits_digitsOf]

theorem exponent_le_of_value_le
    {decimal : Decimal}
    (positive : 0 < decimal.digits)
    (small : decimal.value ≤ safeLimit) :
    decimal.exponent ≤ 309 := by
  have one : (1 : ℚ) ≤ decimal.digits := by exact_mod_cast positive
  have atMost : (10 : ℚ) ^ decimal.exponent ≤ 10 ^ (309 : Int) := by
    calc (10 : ℚ) ^ decimal.exponent ≤ decimal.value :=
          le_mul_of_one_le_left (Binary64.ten_zpow_pos _).le one
      _ ≤ 10 ^ 309 := small.trans safeLimit_lt_ten_pow.le
      _ = 10 ^ (309 : Int) := (zpow_natCast 10 309).symm
  exact (zpow_le_zpow_iff_right₀ (by norm_num)).mp atMost

theorem isSome_float?_of_near
    {decimal : Decimal}
    {rank : Nat}
    (near : decimal.Near rank)
    (small : decimal.value ≤ safeLimit) :
    (ofDecimal decimal).float?.isSome = true := by
  apply isSome_float?
  · exact (significand_ofDecimal_le near.short).trans (by decide)
  · intro found isFound
    have few : (digitsOf decimal.digits).length ≤ 18 := by
      apply (Nat.length_toDigits_le_iff (by decide) (by decide)).mpr
      exact near.short.trans_lt (by decide)
    have atMost := exponent_le_of_value_le near.positive small
    have atLeast := near.fine
    have limit : greatestExponent = 2147483647 := rfl
    rw [exponentDigits_ofDecimal decimal found isFound, limit]
    omega
  · rwa [value_ofDecimal]

/-- The two greatest magnitudes are too close to infinity for the general bound. -/
theorem isSome_float?_of_last :
    (ofDecimal (shortestDecimal (infinityRank - 1))).float?.isSome = true ∧
      (ofDecimal (shortestDecimal (infinityRank - 2))).float?.isSome = true := by
  decide +kernel

theorem isSome_float?_shortestDecimal
    {rank : Nat}
    (positive : 0 < rank)
    (finite : rank < infinityRank) :
    (ofDecimal (shortestDecimal rank)).float?.isSome = true := by
  have near := Binary64.near_shortestDecimal positive finite
  by_cases notLast : rank + 3 ≤ infinityRank
  · exact isSome_float?_of_near near (value_le_safeLimit near notLast)
  · have last : rank = infinityRank - 1 ∨ rank = infinityRank - 2 := by omega
    rcases last with isLast | isLast
    · rw [isLast]
      exact isSome_float?_of_last.1
    · rw [isLast]
      exact isSome_float?_of_last.2

/-! ### Signs -/

/-- The numeral with this sign. -/
def signed (negative : Bool) (numeral : Numeral) : Numeral := { numeral with negative }

theorem WellFormed.signed {numeral : Numeral} (wellFormed : numeral.WellFormed) (negative : Bool) :
    (numeral.signed negative).WellFormed where
  some := wellFormed.some
  whole := wellFormed.whole
  noNeedlessZero := wellFormed.noNeedlessZero
  fraction := wellFormed.fraction
  exponent := wellFormed.exponent

theorem negative_ofDecimal (decimal : Decimal) : (ofDecimal decimal).negative = false := by
  unfold ofDecimal
  dsimp only
  split
  · rfl
  · split
    · rfl
    · split <;> rfl

theorem letters_signed {numeral : Numeral} (negative : Bool) (plain : numeral.negative = false) :
    (numeral.signed negative).letters =
      if negative then '-' :: numeral.letters else numeral.letters := by
  rw [letters, letters, plain]
  rfl

theorem isSome_float?_signed (negative : Bool) (numeral : Numeral) :
    (numeral.signed negative).float?.isSome = numeral.float?.isSome := by
  unfold float? withExponent? scaled? signed
  dsimp only
  cases numeral.exponent with
  | none => simp only [Option.isSome_map]
  | some found =>
    dsimp only
    split
    · split <;> rfl
    · simp only [Option.isSome_map]

end Numeral

/-! ### Numbers -/

open Numeral (ofDecimal ofInteger)

/-- The numeral that a number is written as, if it is finite. -/
def Number.numeral? : Number → Option Numeral
  | .integer value => some (ofInteger value)
  | .float .notANumber => none
  | .float (.signed negative rank) =>
    if rank.val = infinityRank then none
    else some ((ofDecimal (shortestDecimal rank)).signed negative)

theorem renderNumber_eq (number : Number) :
    renderNumber number =
      match number.numeral? with
      | none => ['n', 'u', 'l', 'l']
      | some numeral => numeral.letters := by
  cases number with
  | integer value => exact (Numeral.letters_ofInteger value).symm
  | float value =>
    cases value with
    | notANumber => rfl
    | signed negative rank =>
      unfold Number.numeral? renderNumber renderBinary64
      dsimp only
      split
      · rfl
      · rw [← Numeral.letters_ofDecimal]
        exact (Numeral.letters_signed negative (Numeral.negative_ofDecimal _)).symm

/-- Every finite rank has a decimal that can be written. -/
theorem wellFormed_shortestDecimal {rank : Nat} (finite : rank < infinityRank) :
    (ofDecimal (shortestDecimal rank)).WellFormed := by
  rcases Nat.eq_zero_or_pos rank with isZero | positive
  · have written : ofDecimal (shortestDecimal 0) = ⟨false, ['0'], ['0'], none⟩ := rfl
    rw [isZero, written]
    constructor <;> simp
  · exact Numeral.wellFormed_ofDecimal (Binary64.near_shortestDecimal positive finite).positive

theorem Number.wellFormed_of_numeral?
    {number : Number}
    {numeral : Numeral}
    (found : number.numeral? = some numeral) :
    numeral.WellFormed := by
  cases number with
  | integer value => exact Option.some.inj found ▸ Numeral.wellFormed_ofInteger value
  | float value =>
    cases value with
    | notANumber => cases found
    | signed negative rank =>
      unfold Number.numeral? at found
      dsimp only at found
      split at found
      · cases found
      · rename_i finite
        have below : rank.val < infinityRank :=
          Nat.lt_of_le_of_ne (Nat.le_of_lt_succ rank.isLt) finite
        exact Option.some.inj found ▸ (wellFormed_shortestDecimal below).signed negative

/-- An integer that fits 64 bits, or any floating-point number. -/
def Number.Fits : Number → Prop
  | .integer value => Binary64.leastInt64 ≤ value ∧ value ≤ Numeral.greatestUInt64
  | .float _ => True

/-- What such a number is written as is read as a number. -/
theorem Number.isSome_number?
    {number : Number}
    {numeral : Numeral}
    (fits : number.Fits)
    (found : number.numeral? = some numeral) :
    numeral.number?.isSome = true := by
  cases number with
  | integer value =>
    rw [← Option.some.inj found, Numeral.number?_ofInteger fits.1 fits.2]
    rfl
  | float value =>
    cases value with
    | notANumber => cases found
    | signed negative rank =>
      unfold Number.numeral? at found
      dsimp only at found
      split at found
      · cases found
      · rename_i finite
        have notPlain := Numeral.ofDecimal_not_plain (shortestDecimal rank)
        have read : (ofDecimal (shortestDecimal rank)).float?.isSome = true := by
          rcases Nat.eq_zero_or_pos rank.val with isZero | positive
          · rw [isZero]
            decide +kernel
          · apply Numeral.isSome_float?_shortestDecimal positive
            exact Nat.lt_of_le_of_ne (Nat.le_of_lt_succ rank.isLt) finite
        rw [← Option.some.inj found]
        unfold Numeral.number? Numeral.signed
        dsimp only
        rw [decide_eq_false notPlain]
        simp only [Bool.false_eq_true, false_and, if_false, Option.isSome_map]
        rwa [← Numeral.signed, Numeral.isSome_float?_signed]

end RepoVitals.Json

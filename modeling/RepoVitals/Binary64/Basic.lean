/-!
Binary64: the 64-bit binary floating-point numbers, as exact data.

Owns:
- the type: a NaN, or a sign and the rank of a magnitude;
- the exact value of a finite number, `significand · 2 ^ exponent`;
- rounding of a quotient of natural numbers to the nearest number, a tie to the even one;
- products, quotients and the conversions from and to 64-bit signed integers.

A magnitude is given by its rank: the number of magnitudes below it.  Zero has rank 0, the least
subnormal rank 1, and infinity is the last rank.  The rank of a finite magnitude with significand
`m` and exponent `e` is `(e + 1074) · 2 ^ 52 + m`, for subnormal and normal numbers alike, so that
a significand that is rounded up to `2 ^ 53` is carried into the exponent by the sum itself.

No hardware arithmetic is involved, so every operation can be evaluated in a proof.
-/

namespace RepoVitals

/-- The rank of the least normal magnitude, which is also its significand: `2 ^ 52`. -/
def leastNormal : Nat := 4503599627370496

/-- The rank of infinity, the greatest magnitude. -/
def infinityRank : Nat := 2047 * leastNormal

/-- A 64-bit binary floating-point number; all NaNs are one. -/
inductive Binary64 where
  | notANumber
  | signed (negative : Bool) (rank : Fin (infinityRank + 1))
  deriving DecidableEq

namespace Binary64

/-! ### Magnitudes -/

/-- The number with this sign and rank; ranks past infinity are infinity. -/
def ofRank (negative : Bool) (rank : Nat) : Binary64 :=
  .signed negative ⟨min rank infinityRank, Nat.lt_succ_of_le (Nat.min_le_right _ _)⟩

/-- The integer significand of the magnitude of this rank. -/
def significandOfRank (rank : Nat) : Nat :=
  if rank < leastNormal then rank else leastNormal + rank % leastNormal

/-- The power of two that the significand of this rank is multiplied by. -/
def exponentOfRank (rank : Nat) : Int :=
  if rank < leastNormal then -1074 else (rank / leastNormal : Nat) - 1075

/-- Neither a NaN nor infinite. -/
def isFinite : Binary64 → Bool
  | .notANumber => false
  | .signed _ rank => rank.val < infinityRank

/-- Zero, of either sign. -/
def isZero : Binary64 → Bool
  | .notANumber => false
  | .signed _ rank => rank.val == 0

/-- Positive or negative infinity. -/
def isInfinite : Binary64 → Bool
  | .notANumber => false
  | .signed _ rank => rank.val == infinityRank

/-- The number with the other sign. -/
def negate : Binary64 → Binary64
  | .notANumber => .notANumber
  | .signed negative rank => .signed (!negative) rank

/-! ### Rounding -/

/-- The integer nearest to `numerator / denominator`, a tie going to the even neighbour. -/
def roundHalfEven (numerator denominator : Nat) : Nat :=
  let quotient := numerator / denominator
  let remainder := numerator % denominator
  if 2 * remainder < denominator then quotient
  else if denominator < 2 * remainder then quotient + 1
  else quotient + quotient % 2

/-- The two natural numbers whose quotient is `numerator / denominator / 2 ^ exponent`. -/
def scaleDown (numerator denominator : Nat) (exponent : Int) : Nat × Nat :=
  if exponent < 0 then (numerator * Nat.pow 2 exponent.natAbs, denominator)
  else (numerator, denominator * Nat.pow 2 exponent.natAbs)

/-- The exponent at which the quotient has a 53-bit integer part, but at least `-1074`. -/
def exponentFor (numerator denominator : Nat) : Int :=
  let estimate : Int := (numerator.log2 : Int) - denominator.log2 - 52
  let scaled := scaleDown numerator denominator estimate
  let exponent := if scaled.1 < leastNormal * scaled.2 then estimate - 1 else estimate
  max exponent (-1074)

/-- The rank of the magnitude nearest to `numerator / denominator`. -/
def nearestRank (numerator denominator : Nat) : Nat :=
  if numerator = 0 then 0
  else
    let exponent := exponentFor numerator denominator
    let scaled := scaleDown numerator denominator exponent
    (exponent + 1074).toNat * leastNormal + roundHalfEven scaled.1 scaled.2

/-- The number nearest to `± numerator / denominator`; `denominator` is positive. -/
def ofRatio (negative : Bool) (numerator denominator : Nat) : Binary64 :=
  ofRank negative (nearestRank numerator denominator)

/-- The number nearest to `± significand · 2 ^ exponent`. -/
def ofScaled (negative : Bool) (significand : Nat) (exponent : Int) : Binary64 :=
  if exponent < 0 then ofRatio negative significand (Nat.pow 2 exponent.natAbs)
  else ofRatio negative (significand * Nat.pow 2 exponent.natAbs) 1

/-- The number nearest to an integer. -/
def ofInt (value : Int) : Binary64 :=
  ofRatio (value < 0) value.natAbs 1

/-- Positive zero. -/
def zero : Binary64 := ofRank false 0

/-- Positive infinity. -/
def infinity : Binary64 := ofRank false infinityRank

instance : Inhabited Binary64 := ⟨zero⟩

/-! ### Products and quotients -/

/-- The correctly rounded product. -/
def multiply : Binary64 → Binary64 → Binary64
  | .notANumber, _ => .notANumber
  | _, .notANumber => .notANumber
  | .signed negativeLeft left, .signed negativeRight right =>
    let negative := negativeLeft != negativeRight
    if left.val = infinityRank then
      if right.val = 0 then .notANumber else ofRank negative infinityRank
    else if right.val = infinityRank then
      if left.val = 0 then .notANumber else ofRank negative infinityRank
    else
      ofScaled negative
        (significandOfRank left * significandOfRank right)
        (exponentOfRank left + exponentOfRank right)

/-- The correctly rounded quotient. -/
def divide : Binary64 → Binary64 → Binary64
  | .notANumber, _ => .notANumber
  | _, .notANumber => .notANumber
  | .signed negativeLeft left, .signed negativeRight right =>
    let negative := negativeLeft != negativeRight
    if left.val = infinityRank then
      if right.val = infinityRank then .notANumber else ofRank negative infinityRank
    else if right.val = infinityRank then ofRank negative 0
    else if right.val = 0 then
      if left.val = 0 then .notANumber else ofRank negative infinityRank
    else
      let scaled := scaleDown (significandOfRank left) (significandOfRank right)
        (exponentOfRank right - exponentOfRank left)
      ofRatio negative scaled.1 scaled.2

/-! ### To integers -/

/-- The least 64-bit signed integer. -/
def leastInt64 : Int := -9223372036854775808

/-- The greatest 64-bit signed integer. -/
def greatestInt64 : Int := 9223372036854775807

/-- The nearest integer inside the 64-bit signed range. -/
def clampInt64 (value : Int) : Int :=
  max leastInt64 (min greatestInt64 value)

/-- The magnitude of this rank as a quotient of natural numbers. -/
def ratioOfRank (rank : Nat) : Nat × Nat :=
  scaleDown (significandOfRank rank) 1 (-exponentOfRank rank)

/-- Apply a rule for non-negative quotients to the magnitude and put the sign back; the result is
kept inside the 64-bit signed range, and a NaN gives zero. -/
def toInt64By (rule : Nat → Nat → Nat) : Binary64 → Int
  | .notANumber => 0
  | .signed negative rank =>
    if rank.val = infinityRank then if negative then leastInt64 else greatestInt64
    else
      let ratio := ratioOfRank rank
      let magnitude : Int := rule ratio.1 ratio.2
      clampInt64 (if negative then -magnitude else magnitude)

/-- The integer part, the fraction being dropped. -/
def truncate (value : Binary64) : Int :=
  value.toInt64By (fun numerator denominator => numerator / denominator)

/-- The nearest integer, a half going away from zero. -/
def round (value : Binary64) : Int :=
  value.toInt64By (fun numerator denominator => (2 * numerator + denominator) / (2 * denominator))

end Binary64

end RepoVitals

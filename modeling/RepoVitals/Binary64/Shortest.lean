import RepoVitals.Binary64.Basic
/-!
Shortest decimals: the fewest digits that read back as the same 64-bit number.

Owns:
- the interval of reals that round to a given magnitude;
- the two neighbours of a magnitude on a decimal grid;
- the choice of the coarsest grid with a neighbour inside the interval, and of the nearer
  neighbour on it, an even last digit on a tie.

The interval has its ends inside exactly if the significand is even, because a tie is rounded to
the even significand.  Seventeen digits always suffice.
-/

namespace RepoVitals.Binary64

/-- A decimal `digits · 10 ^ exponent`. -/
structure Decimal where
  digits : Nat
  exponent : Int
  deriving DecidableEq

/-- The reals that round to a magnitude, all as multiples of one unit `numerator / denominator`:
the magnitude, the two ends, and whether the ends themselves round to it. -/
structure RoundingInterval where
  value : Nat
  low : Nat
  high : Nat
  unit : Nat × Nat
  closed : Bool

/-- The interval of the magnitude of this rank, in quarters of the magnitude's own last place.
Below the least significand of an exponent the neighbours are twice as dense. -/
def roundingInterval (rank : Nat) : RoundingInterval :=
  let significand := significandOfRank rank
  let denseBelow := significand = leastNormal ∧ 2 * leastNormal ≤ rank
  { value := 4 * significand
    low := if denseBelow then 4 * significand - 1 else 4 * significand - 2
    high := 4 * significand + 2
    unit := scaleDown 1 1 (2 - exponentOfRank rank)
    closed := significand % 2 = 0 }

/-- Moving the point by so many places makes every positive magnitude greater than one. -/
def enlargedPlaces : Nat := 400

/-- The power of ten at or below a positive magnitude: the magnitude is enlarged beyond one and its
digits are counted. -/
def decimalExponent (rank : Nat) : Int :=
  let ratio := ratioOfRank rank
  ((Nat.toDigits 10 (ratio.1 * Nat.pow 10 enlargedPlaces / ratio.2)).length : Int) -
    enlargedPlaces - 1

/-- The quotient of the unit and `10 ^ exponent`. -/
def gridUnit (unit : Nat × Nat) (exponent : Int) : Nat × Nat :=
  if exponent < 0 then (unit.1 * Nat.pow 10 exponent.natAbs, unit.2)
  else (unit.1, unit.2 * Nat.pow 10 exponent.natAbs)

/-- The multiple of the grid, given by the quotient of the unit and the grid, lies in the
interval. -/
def RoundingInterval.admits (interval : RoundingInterval) (unit : Nat × Nat) (candidate : Nat) :
    Bool :=
  if interval.closed then
    interval.low * unit.1 ≤ candidate * unit.2 ∧ candidate * unit.2 ≤ interval.high * unit.1
  else
    interval.low * unit.1 < candidate * unit.2 ∧ candidate * unit.2 < interval.high * unit.1

/-- The multiple of `10 ^ exponent` that is nearest to the magnitude among its two neighbours on
the grid that lie in the interval. -/
def nearestOnGrid? (interval : RoundingInterval) (exponent : Int) : Option Nat :=
  let unit := gridUnit interval.unit exponent
  let value := interval.value * unit.1
  let below := value / unit.2
  let above := below + 1
  let distanceBelow := value - below * unit.2
  let distanceAbove := above * unit.2 - value
  match decide (0 < below) && interval.admits unit below, interval.admits unit above with
  | true, true =>
    if distanceBelow < distanceAbove then some below
    else if distanceAbove < distanceBelow then some above
    else some (if below % 2 = 0 then below else above)
  | true, false => some below
  | false, true => some above
  | false, false => none

/-- Try the grids from `exponent` downwards. -/
def coarsestGrid (interval : RoundingInterval) : Nat → Int → Decimal
  | 0, exponent => ⟨interval.value * interval.unit.1 / interval.unit.2, exponent⟩
  | tries + 1, exponent =>
    match nearestOnGrid? interval exponent with
    | some digits => ⟨digits, exponent⟩
    | none => coarsestGrid interval tries (exponent - 1)

/-- Move trailing zeros of the digits into the exponent. -/
def dropZeros : Nat → Decimal → Decimal
  | 0, decimal => decimal
  | steps + 1, decimal =>
    if decimal.digits % 10 = 0 ∧ decimal.digits ≠ 0 then
      dropZeros steps ⟨decimal.digits / 10, decimal.exponent + 1⟩
    else decimal

/-- The shortest decimal that rounds to the magnitude of this rank, zero being `0 · 10 ^ 0`. -/
def shortestDecimal (rank : Nat) : Decimal :=
  if rank = 0 then ⟨0, 0⟩
  else dropZeros 20 (coarsestGrid (roundingInterval rank) 18 (decimalExponent rank + 1))

end RepoVitals.Binary64

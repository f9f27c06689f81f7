/-!
Partitions: how a batch is cut into contiguous ranges for the workers.

Owns the number of ranges and the ranges themselves, whose lengths differ by at most one, the longer
ones first.
-/

namespace RepoVitals.Bulk

/-- The quotient rounded up; the divisor is positive. -/
def ceilDiv (value divisor : Nat) : Nat :=
  value / divisor + if value % divisor = 0 then 0 else 1

/-- How many ranges `length` documents are cut into: as many as calls are needed, but at most
`parallelism` and at least one. -/
def partitionCount (length parallelism batchSize : Nat) : Nat :=
  max 1 (min (max 1 parallelism) (ceilDiv length (max 1 batchSize)))

/-- A range of positions: its first one, and the first one after it. -/
structure Range where
  start : Nat
  stop : Nat
  deriving DecidableEq

/-- How many positions a range has. -/
def Range.length (range : Range) : Nat := range.stop - range.start

/-- `count` more ranges from `start` on, of which the first `longer` have one position more than
`base`. -/
def rangesFrom (base : Nat) : (count longer start : Nat) → List Range
  | 0, _, _ => []
  | count + 1, longer, start =>
    let stop := start + base + if 0 < longer then 1 else 0
    ⟨start, stop⟩ :: rangesFrom base count (longer - 1) stop

/-- The ranges of a batch, in order; an empty batch has none. -/
def partition (length parallelism batchSize : Nat) : List Range :=
  if length = 0 then []
  else
    let count := partitionCount length parallelism batchSize
    rangesFrom (length / count) count (length % count) 0

/-- The elements at the positions of a range. -/
def Range.slice {α : Type} (range : Range) (elements : List α) : List α :=
  (elements.drop range.start).take range.length

end RepoVitals.Bulk

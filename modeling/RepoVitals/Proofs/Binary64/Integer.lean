import RepoVitals.Json.Number
/-!
Signed integers of 64 bits.

Owns what they are, and that every conversion to them stays among them.
-/

namespace RepoVitals

/-- A signed integer of 64 bits. -/
def IsInt64 (value : Int) : Prop :=
  Binary64.leastInt64 ≤ value ∧ value ≤ Binary64.greatestInt64

instance (value : Int) : Decidable (IsInt64 value) := by
  unfold IsInt64
  infer_instance

namespace Binary64

theorem isInt64_clampInt64 (value : Int) : IsInt64 (clampInt64 value) := by
  have order : leastInt64 ≤ greatestInt64 := by decide
  unfold IsInt64 clampInt64
  omega

theorem isInt64_toInt64By (rule : Nat → Nat → Nat) (value : Binary64) :
    IsInt64 (value.toInt64By rule) := by
  unfold toInt64By
  split
  · decide
  · split
    · split <;> decide
    · exact isInt64_clampInt64 _

theorem isInt64_truncate (value : Binary64) : IsInt64 value.truncate := isInt64_toInt64By _ value

theorem isInt64_round (value : Binary64) : IsInt64 value.round := isInt64_toInt64By _ value

end Binary64

theorem Json.Number.isInt64_of_toInt64?
    {number : Json.Number}
    {value : Int}
    (found : number.toInt64? = some value) :
    IsInt64 value := by
  cases number with
  | integer held =>
    unfold Json.Number.toInt64? at found
    dsimp only at found
    split at found
    · rename_i inside
      exact Option.some.inj found ▸ inside
    · cases found
  | float held => cases found

end RepoVitals

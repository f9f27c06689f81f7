import RepoVitals.Proofs.Binary64.Overflow
import RepoVitals.Proofs.Json.Decimal
import RepoVitals.Proofs.Json.Fields
/-!
Numbers that a text can bring into a value.

Owns:
- `Number.Held`: an integer of 64 bits, signed or unsigned, or a finite floating-point number;
- `Numeral.held_of_number?`: no numeral is read as any other number, however large it is written;
- the same for the fields of an object that was read.
-/

namespace RepoVitals.Json

open Binary64 (naturalOfDigits nearestRank ofRank ofRatio)

/-- The numbers that a value can hold. -/
def Number.Held : Number → Prop
  | .integer value => Binary64.leastInt64 ≤ value ∧ value ≤ Numeral.greatestUInt64
  | .float value => value.isFinite = true

theorem isFinite_ofRatio_natural
    {value : Nat}
    (negative : Bool)
    (small : value ≤ Numeral.greatestUInt64) :
    (ofRatio negative value 1).isFinite = true := by
  rw [Binary64.isFinite_ofRatio negative Nat.one_pos, Numeral.quotient_one]
  have limit : Numeral.greatestUInt64 = 18446744073709551615 := rfl
  have cast : (value : ℚ) ≤ 18446744073709551615 := by exact_mod_cast limit ▸ small
  calc (value : ℚ) ≤ 2 ^ (64 : Int) := cast.trans (by norm_num)
    _ ≤ 1 * 2 ^ (971 : Int) := by
        rw [one_mul]
        exact Binary64.two_zpow_le (by decide)
    _ < Binary64.overflow := mul_lt_mul_of_pos_right (by norm_num) (Binary64.two_zpow_pos _)

theorem Number.Held.isFinite {number : Number} (held : number.Held) :
    number.toBinary64.isFinite = true := by
  cases number with
  | float value => exact held
  | integer value =>
    apply isFinite_ofRatio_natural
    have limit : Numeral.greatestUInt64 = 18446744073709551615 := rfl
    have least : Binary64.leastInt64 = -9223372036854775808 := rfl
    have bounds := held
    unfold Number.Held at bounds
    omega

namespace Numeral

/-! ### Scaling -/

theorem isFinite_negate (value : Binary64) : value.negate.isFinite = value.isFinite := by
  cases value <;> rfl

theorem isFinite_of_not_isInfinite
    {value : Binary64}
    (isNumber : value ≠ .notANumber)
    (notInfinite : ¬value.isInfinite = true) :
    value.isFinite = true := by
  cases value with
  | notANumber => exact absurd rfl isNumber
  | signed negative rank =>
    rw [Binary64.isInfinite, beq_iff_eq] at notInfinite
    exact decide_eq_true (Nat.lt_of_le_of_ne (Nat.le_of_lt_succ rank.isLt) notInfinite)

/-- Only infinity and zero have no product. -/
theorem multiply_ne_notANumber
    {left right : Binary64}
    (leftFinite : left.isFinite = true)
    (rightFinite : right.isFinite = true) :
    left.multiply right ≠ .notANumber := by
  cases left with
  | notANumber => cases leftFinite
  | signed negativeLeft leftRank =>
    cases right with
    | notANumber => cases rightFinite
    | signed negativeRight rightRank =>
      rw [Binary64.multiply, if_neg (of_decide_eq_true leftFinite).ne,
        if_neg (of_decide_eq_true rightFinite).ne]
      unfold Binary64.ofScaled
      split <;> exact Binary64.noConfusion

theorem isFinite_ten_pow {exponent : Nat} (atMost : exponent ≤ 308) :
    (ofRatio false (Nat.pow 10 exponent) 1).isFinite = true := by
  rw [ofRatio, Binary64.isFinite_ofRank]
  exact nearestRank_ten_pow_lt atMost

theorem isFinite_raise?
    {value found : Binary64}
    {exponent : Nat}
    (finite : value.isFinite = true)
    (isRaised : raise? value exponent = some found) :
    found.isFinite = true := by
  unfold raise? at isRaised
  split at isRaised
  · split at isRaised
    · exact Option.some.inj isRaised ▸ finite
    · cases isRaised
  · rename_i near
    dsimp only at isRaised
    split at isRaised
    · cases isRaised
    · rename_i notInfinite
      rw [← Option.some.inj isRaised]
      have power := isFinite_ten_pow (not_lt.mp near)
      exact isFinite_of_not_isInfinite (multiply_ne_notANumber finite power) notInfinite

theorem isFinite_divide_ten_pow
    (exponent : Nat)
    (atMost : exponent ≤ 308)
    (value : Binary64)
    (finite : value.isFinite = true) :
    (value.divide (ofRatio false (Nat.pow 10 exponent) 1)).isFinite = true :=
  Binary64.isFinite_divide finite (nearestRank_ten_pow_lt atMost)
    (Binary64.one_le_magnitude_nearestRank (Nat.pow_pos (by decide)))

theorem isFinite_lower
    {value : Binary64}
    (finite : value.isFinite = true)
    (exponent : Nat) :
    (lower value exponent).isFinite = true := by
  unfold lower
  extract_lets greatestStep
  have step : ∀ value : Binary64, value.isFinite = true →
      (value.divide greatestStep).isFinite = true :=
    isFinite_divide_ten_pow 308 le_rfl
  split
  · rename_i near
    exact isFinite_divide_ten_pow _ near _ finite
  · split
    · rename_i near
      exact isFinite_divide_ten_pow _ (Nat.sub_le_sub_right near 308) _ (step _ finite)
    · exact step _ (step _ finite)

theorem isFinite_scaled?
    {negative : Bool}
    {significand : Nat}
    {exponent : Int}
    {found : Binary64}
    (small : significand ≤ greatestUInt64)
    (isScaled : scaled? negative significand exponent = some found) :
    found.isFinite = true := by
  have finite := isFinite_ofRatio_natural false small
  obtain ⟨magnitude, isMagnitude, isFound⟩ := Option.map_eq_some_iff.mp isScaled
  have magnitudeFinite : magnitude.isFinite = true := by
    split at isMagnitude
    · exact isFinite_raise? finite isMagnitude
    · exact Option.some.inj isMagnitude ▸ isFinite_lower finite _
  rw [← isFound]
  split
  · rwa [isFinite_negate]
  · exact magnitudeFinite

/-! ### Numerals -/

/-- Digits are taken only as long as they fit. -/
theorem gather_le
    {value : Nat}
    (digits : List Char)
    (small : value ≤ greatestUInt64) :
    (gather value digits).1 ≤ greatestUInt64 := by
  induction digits generalizing value with
  | nil => exact small
  | cons digit rest inductionHypothesis =>
    unfold gather
    dsimp only
    split
    · exact small
    · rename_i fits
      exact inductionHypothesis (not_lt.mp fits)

theorem isFinite_withExponent?
    {numeral : Numeral}
    {significand : Nat}
    {moved : Int}
    {found : Binary64}
    (small : significand ≤ greatestUInt64)
    (isFound : withExponent? numeral significand moved = some found) :
    found.isFinite = true := by
  unfold withExponent? at isFound
  split at isFound
  · exact isFinite_scaled? small isFound
  · dsimp only at isFound
    split at isFound
    · split at isFound
      · cases isFound
      · rw [← Option.some.inj isFound, Binary64.isFinite_ofRank]
        decide
    · exact isFinite_scaled? small isFound

/-- A numeral past the greatest number is refused, and every other one is read as a finite
number. -/
theorem isFinite_float?
    {numeral : Numeral}
    {found : Binary64}
    (isFound : numeral.float? = some found) :
    found.isFinite = true :=
  isFinite_withExponent? (gather_le _ (gather_le _ (Nat.zero_le _))) isFound

theorem held_of_number?
    {numeral : Numeral}
    {number : Number}
    (isNumber : numeral.number? = some number) :
    number.Held := by
  have limit : greatestUInt64 = 18446744073709551615 := rfl
  have half : UInt64.size / 2 = 9223372036854775808 := rfl
  have least : Binary64.leastInt64 = -9223372036854775808 := rfl
  unfold number? at isNumber
  dsimp only at isNumber
  split at isNumber
  · rename_i fits
    rw [← Option.some.inj isNumber]
    unfold Number.Held
    omega
  · split at isNumber
    · rename_i fits
      rw [← Option.some.inj isNumber]
      unfold Number.Held
      omega
    · obtain ⟨found, isFound, rfl⟩ := Option.map_eq_some_iff.mp isNumber
      exact isFinite_float? isFound

end Numeral

/-! ### Values -/

/-- What reading makes sure of: a number can be held, and the fields of an object were read. -/
def Value.WasRead (room : Nat) : Value → Prop
  | .number found => found.Held
  | .object entries => ∃ parts fields, Written.toFields? (room - 1) parts = some fields ∧
      Value.object entries = Value.ofFields fields
  | _ => True

theorem Value.wasRead_of_toValue?
    {room : Nat}
    {whole : Written}
    {source : Value}
    (isValue : whole.toValue? room = some source) :
    source.WasRead room := by
  cases whole with
  | null =>
    cases isValue
    trivial
  | boolean value =>
    cases isValue
    trivial
  | number numeral =>
    obtain ⟨found, isNumber, rfl⟩ := Option.map_eq_some_iff.mp isValue
    exact Numeral.held_of_number? isNumber
  | text content =>
    obtain ⟨found, -, rfl⟩ := Option.map_eq_some_iff.mp isValue
    trivial
  | array items =>
    rw [Written.toValue?] at isValue
    split at isValue
    · cases isValue
    · obtain ⟨found, -, rfl⟩ := Option.map_eq_some_iff.mp isValue
      trivial
  | object parts =>
    rw [Written.toValue?] at isValue
    split at isValue
    · cases isValue
    · obtain ⟨fields, areFields, rfl⟩ := Option.map_eq_some_iff.mp isValue
      exact ⟨parts, fields, areFields, rfl⟩

theorem Written.held_of_mem_toFields?
    {room : Nat}
    {parts : List (Option String × Written)}
    {fields : List (String × Value)}
    {key : String}
    {number : Number}
    (areFields : Written.toFields? room parts = some fields)
    (member : (key, .number number) ∈ fields) :
    number.Held := by
  induction parts generalizing fields with
  | nil =>
    cases areFields
    cases member
  | cons part rest inductionHypothesis =>
    obtain ⟨name, areFields⟩ := Option.bind_eq_some_iff.mp areFields
    obtain ⟨value, isValue, areFields⟩ := Option.bind_eq_some_iff.mp areFields.2
    obtain ⟨others, areOthers, isCons⟩ := Option.bind_eq_some_iff.mp areFields
    cases isCons
    rcases List.mem_cons.mp member with isFirst | isLater
    · cases isFirst
      exact Value.wasRead_of_toValue? isValue
    · exact inductionHypothesis areOthers isLater

/-- Every number among the fields of a value can be held. -/
def Value.HoldsNumbers (source : Value) : Prop :=
  ∀ key number, source.field? key = some (.number number) → number.Held

theorem Value.holdsNumbers_object
    {entries : List (String × Value)}
    (each : ∀ entry ∈ entries, ∀ number, entry.2 = .number number → number.Held) :
    (Value.object entries).HoldsNumbers :=
  fun _ number isField => each _ (mem_of_valueUnder? isField) number rfl

/-- A value that was read from a text holds its numbers. -/
theorem Value.holdsNumbers_of_toValue?
    {room : Nat}
    {whole : Written}
    {source : Value}
    (isValue : whole.toValue? room = some source) :
    source.HoldsNumbers := by
  intro key number isField
  cases source with
  | object entries =>
    obtain ⟨parts, fields, areFields, isSource⟩ := Value.wasRead_of_toValue? isValue
    rw [isSource, Value.field?_ofFields] at isField
    exact Written.held_of_mem_toFields? areFields (Ledger.mem_of_get?_ofList isField)
  | _ => cases isField

end RepoVitals.Json

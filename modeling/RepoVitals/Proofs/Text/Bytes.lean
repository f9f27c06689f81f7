import RepoVitals.Ledger
import Mathlib.Data.List.Basic
import Mathlib.Tactic.SplitIfs
/-!
Texts as bytes.

Owns:
- the bytes of a text, character by character, which are those of no other text;
- `utf8_lt_iff`: texts that are compared character by character are compared byte by byte.

Characters with different numbers of bytes differ in the first byte; those with equally many have
their digits to the base 64 in these bytes.
-/

namespace RepoVitals.Text

/-! ### The bytes of a text -/

private theorem toList_loop (bytes : ByteArray) (position : Nat) (held : List UInt8) :
    ByteArray.toList.loop bytes position held =
      held.reverse ++ bytes.data.toList.drop position := by
  fun_induction ByteArray.toList.loop bytes position held with
  | case1 position held inside inductionHypothesis =>
    have inside' : position < bytes.data.toList.length := by simpa using inside
    have found : bytes.get! position = bytes.data.toList[position] := by
      simp only [ByteArray.get!, Array.getElem_toList]
      exact getElem!_pos bytes.data position (by simpa using inside)
    rw [inductionHypothesis, List.drop_eq_getElem_cons inside', found]
    simp
  | case2 position held outside =>
    have outside' : bytes.data.toList.length ≤ position := by simpa using outside
    rw [List.drop_eq_nil_of_le outside']
    simp

theorem toList_bytes (bytes : ByteArray) : bytes.toList = bytes.data.toList := by
  rw [ByteArray.toList, toList_loop]
  simp

/-- Different texts have different bytes. -/
theorem toUTF8_eq_iff (first second : String) :
    first.toUTF8.toList = second.toUTF8.toList ↔ first = second := by
  constructor
  · intro same
    rw [toList_bytes, toList_bytes] at same
    exact String.toByteArray_inj.mp (ByteArray.ext (Array.toList_inj.mp same))
  · intro same
    rw [same]

theorem toList_toUTF8 (text : String) :
    text.toUTF8.toList = text.toList.flatMap String.utf8EncodeChar := by
  rw [toList_bytes, String.toUTF8_eq_toByteArray, ← String.ofList_toList (s := text),
    String.toByteArray_ofList, List.utf8Encode, List.data_toByteArray, String.toList_ofList]

/-! ### Order -/

theorem byte_cons_lt_iff
    {first second : Nat}
    {rest rest' : List UInt8}
    (isByte : first < 256)
    (isByte' : second < 256) :
    UInt8.ofNat first :: rest < UInt8.ofNat second :: rest' ↔
      first < second ∨ first = second ∧ rest < rest' := by
  rw [List.cons_lt_cons_iff, UInt8.lt_iff_toNat_lt, ← UInt8.toNat_inj,
    UInt8.toNat_ofNat_of_lt' isByte, UInt8.toNat_ofNat_of_lt' isByte']

/-- A greater number is greater in front of its last digit, or the same there and greater in it. -/
theorem digits_lt {first second : Nat} (below : first < second) :
    first / 64 < second / 64 ∨ first / 64 = second / 64 ∧ first % 64 < second % 64 := by
  omega

/-- Numbers of four digits compare digit by digit. -/
theorem fourDigits_lt {first second : Nat} (below : first < second) (small : second < 2097152) :
    first / 262144 % 8 < second / 262144 % 8 ∨ first / 262144 % 8 = second / 262144 % 8 ∧
      (first / 4096 % 64 < second / 4096 % 64 ∨ first / 4096 % 64 = second / 4096 % 64 ∧
        (first / 64 % 64 < second / 64 % 64 ∨ first / 64 % 64 = second / 64 % 64 ∧
          first % 64 < second % 64)) := by
  have cutTwice (number : Nat) : number / 4096 = number / 64 / 64 := by omega
  have cutThrice (number : Nat) : number / 262144 = number / 64 / 64 / 64 := by omega
  have lead : first / 64 / 64 / 64 < 8 := by omega
  have lead' : second / 64 / 64 / 64 < 8 := by omega
  rw [cutThrice, cutThrice, cutTwice, cutTwice, Nat.mod_eq_of_lt lead, Nat.mod_eq_of_lt lead']
  rcases digits_lt below with front | ⟨same, last⟩
  · rcases digits_lt front with front | ⟨same, third⟩
    · rcases digits_lt front with front | ⟨same, second⟩
      · exact .inl front
      · exact .inr ⟨same, .inl second⟩
    · exact .inr ⟨congrArg (· / 64) same, .inr ⟨congrArg (· % 64) same, .inl third⟩⟩
  · exact .inr ⟨congrArg (· / 64 / 64) same, .inr ⟨congrArg (· / 64 % 64) same,
      .inr ⟨congrArg (· % 64) same, last⟩⟩⟩

theorem encodeChar_lt {first second : Char} (below : first < second) (rest rest' : List UInt8) :
    String.utf8EncodeChar first ++ rest < String.utf8EncodeChar second ++ rest' := by
  have below : first.val.toNat < second.val.toNat := below
  have inRange : second.val.toNat < 1114112 := by
    have valid := second.valid
    unfold UInt32.isValidChar Nat.isValidChar at valid
    omega
  unfold String.utf8EncodeChar
  generalize first.val.toNat = number at below ⊢
  generalize second.val.toNat = greater at below inRange ⊢
  -- One case for each pair of lengths.
  simp only
  split_ifs
  all_goals try omega
  all_goals
    simp only [List.cons_append, List.nil_append]
    repeat rw [byte_cons_lt_iff (by omega) (by omega)]
    try omega
  -- Four bytes on both sides.
  have compared := fourDigits_lt below (by omega)
  omega

theorem flatMap_encodeChar_lt {first second : List Char} (below : first < second) :
    first.flatMap String.utf8EncodeChar < second.flatMap String.utf8EncodeChar := by
  induction first generalizing second with
  | nil =>
    cases second with
    | nil => exact absurd below (List.not_lt_nil [])
    | cons letter rest =>
      rw [List.flatMap_nil, List.flatMap_cons]
      cases bytes : String.utf8EncodeChar letter with
      | nil => exact absurd bytes (by simp)
      | cons byte others => exact List.nil_lt_cons _ _
  | cons letter rest inductionHypothesis =>
    cases second with
    | nil => exact absurd below (List.not_lt_nil _)
    | cons letter' rest' =>
      rw [List.flatMap_cons, List.flatMap_cons]
      rcases List.cons_lt_cons_iff.mp below with here | ⟨rfl, later⟩
      · exact encodeChar_lt here _ _
      · exact List.append_left_lt (inductionHypothesis later)

/-- Texts compare as their bytes do. -/
theorem utf8_lt_iff (first second : String) :
    first.toUTF8.toList < second.toUTF8.toList ↔ first < second := by
  have forward {first second : String} (below : first < second) :
      first.toUTF8.toList < second.toUTF8.toList := by
    rw [toList_toUTF8, toList_toUTF8]
    exact flatMap_encodeChar_lt (String.lt_iff.mp below)
  refine ⟨fun below => ?_, forward⟩
  by_contra notBelow
  by_cases above : second < first
  · exact List.lt_asymm below (forward above)
  · rw [eq_of_not_lt_of_not_lt notBelow above] at below
    exact List.lt_irrefl _ below

end RepoVitals.Text

import RepoVitals.Summary
import RepoVitals.Proofs.Calendar.Rendering
import RepoVitals.Proofs.Json.Numeral
import Mathlib.Data.List.Basic
/-!
The cells of the summary, read back.

Owns:
- the digits of a grouped numeral and the groups between its commas;
- the fields of a clock reading between its colons;
- `cells_lossless`: what a grouped numeral and a clock reading look like, and that they tell the
  number and the whole seconds.

A comma is put by how many digits follow.  So the groups are counted from the end: only the first
one may be short, and one digit more makes it longer or starts a new group.
-/

namespace RepoVitals.Summary

open Text (clock groupDigits grouped length_padded nanosecondsPerSecond padded)

/-! ### Numerals -/

/-- The decimal numeral of a number, without zeros in front. -/
structure IsNumeral (digits : List Char) (number : Nat) : Prop where
  nonempty : digits ≠ []
  areDigits : ∀ digit ∈ digits, digit.isDigit = true
  noZeroInFront : digits.head? = some '0' → digits = ['0']
  value : Nat.ofDigitChars 10 digits 0 = number

/-- The groups have three letters each, but for the first one, which may have fewer. -/
def InThrees (groups : List (List Char)) : Prop :=
  ∃ first others, groups = first :: others ∧ 1 ≤ first.length ∧ first.length ≤ 3 ∧
    ∀ group ∈ others, group.length = 3

theorem isNumeral_toDigits (number : Nat) : IsNumeral (Nat.toDigits 10 number) number where
  nonempty := Nat.toDigits_ne_nil
  areDigits := fun _ isDigit => Nat.isDigit_of_mem_toDigits (by decide) (by decide) isDigit
  noZeroInFront := by
    intro zeroInFront
    rcases Nat.eq_zero_or_pos number with rfl | positive
    · rfl
    · exact absurd zeroInFront (Json.head?_digitsOf positive)
  value := Nat.ofDigitChars_ten_toDigits

theorem comma_not_mem {digits : List Char} (areDigits : ∀ digit ∈ digits, digit.isDigit = true) :
    ',' ∉ digits :=
  fun isComma => absurd (areDigits ',' isComma) (by decide)

/-- Grouping adds commas only. -/
theorem filter_groupDigits {digits : List Char} (noComma : ',' ∉ digits) :
    (groupDigits digits).filter (· ≠ ',') = digits := by
  fun_induction groupDigits digits with
  | case1 => rfl
  | case2 last =>
    have isDigit : last ≠ ',' := by simpa [eq_comm] using noComma
    rw [List.filter_cons_of_pos (by simpa using isDigit), List.filter_nil]
  | case3 digit next rest _ inductionHypothesis =>
    obtain ⟨isDigit, later⟩ : digit ≠ ',' ∧ ',' ∉ next :: rest := by simpa [eq_comm] using noComma
    rw [List.filter_cons_of_pos (by simpa using isDigit), List.filter_cons_of_neg (by simp),
      inductionHypothesis later]
  | case4 digit next rest _ inductionHypothesis =>
    obtain ⟨isDigit, later⟩ : digit ≠ ',' ∧ ',' ∉ next :: rest := by simpa [eq_comm] using noComma
    rw [List.filter_cons_of_pos (by simpa using isDigit), inductionHypothesis later]

theorem splitOn_comma_cons (letter : Char) (rest : List Char) :
    (letter :: rest).splitOn ',' =
      if letter = ',' then [] :: rest.splitOn ','
      else (rest.splitOn ',').modifyHead (letter :: ·) := by
  simp only [List.splitOn, List.splitOnP_cons_eq_if_modifyHead, beq_iff_eq]

/-- The groups of a grouped numeral, the first of which has what the others leave over. -/
theorem exists_groups_groupDigits
    {digits : List Char}
    (noComma : ',' ∉ digits)
    (nonempty : digits ≠ []) :
    ∃ first others, (groupDigits digits).splitOn ',' = first :: others ∧
      first.length = (digits.length - 1) % 3 + 1 ∧ ∀ group ∈ others, group.length = 3 := by
  fun_induction groupDigits digits with
  | case1 => exact absurd rfl nonempty
  | case2 last => exact ⟨[last], [], List.splitOn_eq_singleton noComma, rfl, nofun⟩
  | case3 digit next rest full inductionHypothesis =>
    obtain ⟨isDigit, later⟩ : digit ≠ ',' ∧ ',' ∉ next :: rest := by simpa [eq_comm] using noComma
    obtain ⟨first, others, areGroups, length, threes⟩ := inductionHypothesis later (by simp)
    refine ⟨[digit], first :: others, ?_, ?_, ?_⟩
    · rw [splitOn_comma_cons, if_neg isDigit, splitOn_comma_cons, if_pos rfl, areGroups]
      rfl
    · simp only [List.length_cons, List.length_nil] at full ⊢
      omega
    · simp only [List.forall_mem_cons]
      refine ⟨?_, threes⟩
      simp only [List.length_cons] at full length
      omega
  | case4 digit next rest short inductionHypothesis =>
    obtain ⟨isDigit, later⟩ : digit ≠ ',' ∧ ',' ∉ next :: rest := by simpa [eq_comm] using noComma
    obtain ⟨first, others, areGroups, length, threes⟩ := inductionHypothesis later (by simp)
    refine ⟨digit :: first, others, ?_, ?_, threes⟩
    · rw [splitOn_comma_cons, if_neg isDigit, areGroups]
      rfl
    · simp only [List.length_cons] at short length ⊢
      omega

theorem isNumeral_grouped (number : Nat) :
    IsNumeral ((grouped number).toList.filter (· ≠ ',')) number := by
  have isNumeral := isNumeral_toDigits number
  rwa [grouped, String.toList_ofList, filter_groupDigits (comma_not_mem isNumeral.areDigits)]

theorem inThrees_grouped (number : Nat) : InThrees ((grouped number).toList.splitOn ',') := by
  have isNumeral := isNumeral_toDigits number
  obtain ⟨first, others, areGroups, length, threes⟩ :=
    exists_groups_groupDigits (comma_not_mem isNumeral.areDigits) isNumeral.nonempty
  rw [grouped, String.toList_ofList]
  exact ⟨first, others, areGroups, by omega, by omega, threes⟩

theorem eq_of_grouped_eq {first second : Nat} (same : grouped first = grouped second) :
    first = second := by
  rw [← (isNumeral_grouped first).value, same, (isNumeral_grouped second).value]

/-! ### Clock readings -/

/-- The number that a field shows. -/
def shown (field : List Char) : Nat := Nat.ofDigitChars 10 field 0

/-- The seconds that fields show together: each counts sixty times the next one. -/
def secondsShown (fields : List (List Char)) : Nat :=
  fields.foldl (fun total field => 60 * total + shown field) 0

/-- The fields of a reading of so many seconds: minutes and seconds, in two digits below sixty,
after the hours if there are any. -/
structure IsReading (fields : List (List Char)) (seconds : Nat) : Prop where
  areDigits : ∀ field ∈ fields, ∀ digit ∈ field, digit.isDigit = true
  shape : ∃ hours minutes secs, fields = hours ++ [minutes, secs] ∧ hours.length ≤ 1 ∧
    (hours = [] ↔ seconds / 3600 = 0) ∧
    ∀ field ∈ [minutes, secs], field.length = 2 ∧ shown field < 60
  total : secondsShown fields = seconds

/-- The fields of a clock reading. -/
def clockFields (seconds : Nat) : List (List Char) :=
  let hours := if 0 < seconds / 3600 then [(padded 2 (seconds / 3600)).toList] else []
  hours ++ [(padded 2 (seconds % 3600 / 60)).toList, (padded 2 (seconds % 60)).toList]

theorem shown_padded (width value : Nat) : shown (padded width value).toList = value :=
  Text.ofDigitChars_padded width value

theorem exists_of_mem_clockFields
    {seconds : Nat}
    {field : List Char}
    (isField : field ∈ clockFields seconds) :
    ∃ value, field = (padded 2 value).toList := by
  unfold clockFields at isField
  by_cases long : 0 < seconds / 3600
  · simp only [if_pos long, List.cons_append, List.nil_append, List.mem_cons, List.not_mem_nil,
      or_false] at isField
    rcases isField with rfl | rfl | rfl <;> exact ⟨_, rfl⟩
  · simp only [if_neg long, List.nil_append, List.mem_cons, List.not_mem_nil, or_false] at isField
    rcases isField with rfl | rfl <;> exact ⟨_, rfl⟩

theorem isDigit_of_mem_clockFields {seconds : Nat} :
    ∀ field ∈ clockFields seconds, ∀ digit ∈ field, digit.isDigit = true := by
  intro field isField digit member
  obtain ⟨value, rfl⟩ := exists_of_mem_clockFields isField
  exact Text.isDigit_of_mem_padded member

theorem splitOn_clock (nanoseconds : Nat) :
    (clock nanoseconds).toList.splitOn ':' = clockFields (nanoseconds / nanosecondsPerSecond) := by
  have joined : (clock nanoseconds).toList =
      [':'].intercalate (clockFields (nanoseconds / nanosecondsPerSecond)) := by
    unfold clock clockFields
    by_cases long : 0 < nanoseconds / nanosecondsPerSecond / 3600
    · simp [long, List.intercalate]
    · simp [long, List.intercalate]
  rw [joined]
  apply List.splitOn_intercalate
  · intro field isField isColon
    exact absurd (isDigit_of_mem_clockFields field isField ':' isColon) (by decide)
  · simp [clockFields]

theorem isReading_clockFields (seconds : Nat) : IsReading (clockFields seconds) seconds where
  areDigits := isDigit_of_mem_clockFields
  shape := by
    refine ⟨_, _, _, rfl, ?_, ?_, ?_⟩
    · split <;> simp
    · by_cases long : 0 < seconds / 3600
      · simp only [if_pos long, reduceCtorEq, false_iff]
        omega
      · simp only [if_neg long, true_iff]
        omega
    · have two {value : Nat} (small : value < 60) : (padded 2 value).toList.length = 2 ∧
          shown (padded 2 value).toList < 60 := by
        rw [shown_padded]
        exact ⟨Calendar.length_padded_two (by omega), small⟩
      simp only [List.forall_mem_cons, List.not_mem_nil, false_implies, implies_true, and_true]
      exact ⟨two (by omega), two (by omega)⟩
  total := by
    unfold secondsShown clockFields
    by_cases long : 0 < seconds / 3600
    · simp only [if_pos long, List.cons_append, List.nil_append, List.foldl_cons, List.foldl_nil,
        shown_padded]
      omega
    · simp only [if_neg long, List.nil_append, List.foldl_cons, List.foldl_nil, shown_padded]
      omega

/-- **The cells of the summary are lossless.**  Without its commas, a grouped numeral is the decimal
numeral of its number, and the commas stand between groups of three digits, the first of which may
be shorter.  A clock reading shows the whole seconds of a time as minutes and seconds in two digits,
and has a field of hours in front exactly if there are any.  So equal cells show equal numbers and
equal whole seconds. -/
theorem cells_lossless :
    (∀ number : Nat,
      IsNumeral ((grouped number).toList.filter (· ≠ ',')) number ∧
        InThrees ((grouped number).toList.splitOn ',')) ∧
    (∀ nanoseconds : Nat,
      IsReading ((clock nanoseconds).toList.splitOn ':') (nanoseconds / nanosecondsPerSecond)) ∧
    (∀ first second : Nat, grouped first = grouped second → first = second) ∧
    ∀ first second : Nat, clock first = clock second →
      first / nanosecondsPerSecond = second / nanosecondsPerSecond := by
  have reading (nanoseconds : Nat) : IsReading ((clock nanoseconds).toList.splitOn ':')
      (nanoseconds / nanosecondsPerSecond) := by
    rw [splitOn_clock]
    exact isReading_clockFields _
  refine ⟨fun number => ⟨isNumeral_grouped number, inThrees_grouped number⟩, reading,
    fun _ _ => eq_of_grouped_eq, fun first second same => ?_⟩
  rw [← (reading first).total, same, (reading second).total]

/-- A hundred hours and a second: the hours may have more than two digits. -/
example : clock (360001 * nanosecondsPerSecond) = "100:00:01" := by
  decide +kernel

end RepoVitals.Summary

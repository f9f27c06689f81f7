import RepoVitals.Calendar.Date
import Mathlib.Data.List.Basic
/-!
Rendered dates: what can be read off them.

Owns:
- the letters of a rendered year, date and bucket, which are digits and signs;
- `Date.eq_of_text_eq`: a rendered date is the rendering of no other date;
- `Bucket.text_eq_iff`: rendered buckets are equal just for equal days and for months of the same
  year and month, and a day is never rendered like a month.

The year comes first or last and may have a sign and any number of digits, while month and day have
two digits each; so a rendered bucket is always taken apart from the side where the widths are
fixed.
-/

namespace RepoVitals.Calendar

open Text (isDigit_of_mem_padded length_padded padded eq_of_padded_eq)

/-! ### Parts of a date -/

theorem month_le_of_exists
    {year : Int}
    {month day : Nat}
    (isDate : Exists year month day) :
    month ≤ 12 := by
  obtain ⟨-, -, positive, within⟩ := isDate
  by_contra beyond
  have none : daysInMonth year month = 0 := by
    unfold daysInMonth
    rw [if_neg (by omega), if_neg (by omega), if_neg (by omega)]
  omega

theorem day_le_of_exists
    {year : Int}
    {month day : Nat}
    (isDate : Exists year month day) :
    day ≤ 31 := by
  obtain ⟨-, -, -, within⟩ := isDate
  refine Nat.le_trans within ?_
  unfold daysInMonth
  split
  · split <;> decide
  · split
    · decide
    · split <;> decide

/-- Two digits are enough for a month and for a day. -/
theorem length_padded_two {value : Nat} (small : value ≤ 99) :
    (padded 2 value).toList.length = 2 := by
  rw [length_padded]
  apply Nat.max_eq_left
  exact (Nat.length_toDigits_le_iff (by decide) (by decide)).mpr (by omega)

/-! ### Years -/

/-- The three ways to write a year. -/
theorem yearText_cases (year : Int) :
    (year < 0 ∧ (yearText year).toList = '-' :: (padded 4 year.natAbs).toList) ∨
    (9999 < year ∧ (yearText year).toList = '+' :: (padded 0 year.natAbs).toList) ∨
    (0 ≤ year ∧ (yearText year).toList = (padded 4 year.natAbs).toList) := by
  unfold yearText
  by_cases negative : year < 0
  · rw [if_pos negative]
    exact .inl ⟨negative, by rw [String.toList_append]; rfl⟩
  · rw [if_neg negative]
    by_cases large : 9999 < year
    · rw [if_pos large]
      refine .inr (.inl ⟨large, ?_⟩)
      simp [Text.toList_padded, Text.decimal]
    · rw [if_neg large]
      exact .inr (.inr ⟨by omega, rfl⟩)

theorem sign_not_mem_padded
    {width value : Nat}
    {sign : Char}
    (isSign : sign.isDigit = false) :
    sign ∉ (padded width value).toList := by
  intro member
  rw [isDigit_of_mem_padded member] at isSign
  exact Bool.noConfusion isSign

theorem eq_of_yearText_eq
    {first second : Int}
    (same : (yearText first).toList = (yearText second).toList) :
    first = second := by
  have minus {width value : Nat} : '-' ∉ (padded width value).toList :=
    sign_not_mem_padded rfl
  have plus {width value : Nat} : '+' ∉ (padded width value).toList :=
    sign_not_mem_padded rfl
  rcases yearText_cases first with ⟨low, text⟩ | ⟨high, text⟩ | ⟨usual, text⟩ <;>
    rcases yearText_cases second with ⟨low', text'⟩ | ⟨high', text'⟩ | ⟨usual', text'⟩ <;>
    rw [text, text'] at same
  · have := eq_of_padded_eq (List.cons.inj same).2
    omega
  · exact absurd (List.cons.inj same).1 (by decide)
  · exact absurd (same ▸ List.mem_cons_self) minus
  · exact absurd (List.cons.inj same).1 (by decide)
  · have := eq_of_padded_eq (List.cons.inj same).2
    omega
  · exact absurd (same ▸ List.mem_cons_self) plus
  · exact absurd (same ▸ List.mem_cons_self) minus
  · exact absurd (same ▸ List.mem_cons_self) plus
  · have := eq_of_padded_eq same
    omega

/-- A rendered year starts with a sign or with four digits. -/
theorem yearText_start (year : Int) :
    ∃ letter rest, (yearText year).toList = letter :: rest ∧
      (letter.isDigit = false ∨ ∃ second third more, rest = second :: third :: more ∧
        third.isDigit = true) := by
  rcases yearText_cases year with ⟨-, text⟩ | ⟨-, text⟩ | ⟨-, text⟩
  · exact ⟨'-', _, text, .inl rfl⟩
  · exact ⟨'+', _, text, .inl rfl⟩
  · have long : 4 ≤ (padded 4 year.natAbs).toList.length := by
      rw [length_padded]
      exact Nat.le_max_left _ _
    rw [← text] at long
    match shape : (yearText year).toList, long with
    | letter :: second :: third :: more, _ =>
      refine ⟨letter, _, rfl, .inr ⟨second, third, more, rfl, ?_⟩⟩
      have isPart : third ∈ (padded 4 year.natAbs).toList := by
        rw [← text, shape]
        simp
      exact isDigit_of_mem_padded isPart

/-! ### Dates -/

theorem toList_date (date : Date) :
    date.text.toList =
      (yearText date.year).toList ++
        ('-' :: (padded 2 date.month).toList ++ '-' :: (padded 2 date.day).toList) := by
  simp [Date.text, String.toList_append]

theorem Date.eq_of_text_eq
    {first second : Date}
    (same : first.text.toList = second.text.toList) :
    first = second := by
  have month (date : Date) : (padded 2 date.month).toList.length = 2 :=
    length_padded_two (Nat.le_trans (month_le_of_exists date.isDate) (by decide))
  have day (date : Date) : (padded 2 date.day).toList.length = 2 :=
    length_padded_two (Nat.le_trans (day_le_of_exists date.isDate) (by decide))
  rw [toList_date, toList_date] at same
  obtain ⟨years, rest⟩ := List.append_inj' same (by simp [month, day])
  obtain ⟨months, days⟩ := List.append_inj rest (by simp [month])
  have sameYear := eq_of_yearText_eq years
  have sameMonth := eq_of_padded_eq (List.cons.inj months).2
  have sameDay := eq_of_padded_eq (List.cons.inj days).2
  cases first
  cases second
  cases sameYear
  cases sameMonth
  cases sameDay
  rfl

/-! ### Buckets -/

theorem toList_month (date : Date) :
    (Bucket.month date).text.toList =
      (padded 2 date.month).toList ++ '-' :: (yearText date.year).toList := by
  simp [Bucket.text, String.toList_append]

theorem month_text_eq_iff (first second : Date) :
    (Bucket.month first).text = (Bucket.month second).text ↔
      first.year = second.year ∧ first.month = second.month := by
  have width (date : Date) : (padded 2 date.month).toList.length = 2 :=
    length_padded_two (Nat.le_trans (month_le_of_exists date.isDate) (by decide))
  constructor
  · intro same
    have letters := congrArg String.toList same
    rw [toList_month, toList_month] at letters
    obtain ⟨months, years⟩ := List.append_inj letters (by rw [width, width])
    exact ⟨eq_of_yearText_eq (List.cons.inj years).2, eq_of_padded_eq months⟩
  · rintro ⟨sameYear, sameMonth⟩
    simp only [Bucket.text, sameYear, sameMonth]

/-- The third letter of a rendered month is a hyphen after two digits, which no rendered day has. -/
theorem day_text_ne_month_text (first second : Date) :
    (Bucket.day first).text ≠ (Bucket.month second).text := by
  intro same
  have letters : first.text.toList = (Bucket.month second).text.toList :=
    congrArg String.toList same
  have width : (padded 2 second.month).toList.length = 2 :=
    length_padded_two (Nat.le_trans (month_le_of_exists second.isDate) (by decide))
  rw [toList_date, toList_month] at letters
  match shape : (padded 2 second.month).toList, width with
  | [tens, ones], _ =>
    obtain ⟨letter, rest, text, start⟩ := yearText_start first.year
    rw [text, shape] at letters
    obtain ⟨sameLetter, letters⟩ := List.cons.inj letters
    have isPart : tens ∈ (padded 2 second.month).toList := by
      rw [shape]
      exact List.mem_cons_self
    have digit : tens.isDigit = true := isDigit_of_mem_padded isPart
    rcases start with sign | ⟨next, third, more, shape', isDigit⟩
    · rw [sameLetter, digit] at sign
      exact Bool.noConfusion sign
    · rw [shape'] at letters
      obtain ⟨-, letters⟩ := List.cons.inj letters
      rw [(List.cons.inj letters).1] at isDigit
      exact Bool.noConfusion isDigit

theorem Bucket.text_eq_iff (first second : Bucket) :
    first.text = second.text ↔
      (∃ date, first = .day date ∧ second = .day date) ∨
      (∃ date date', first = .month date ∧ second = .month date' ∧
        date.year = date'.year ∧ date.month = date'.month) := by
  cases first with
  | day first =>
    cases second with
    | day second =>
      constructor
      · intro same
        have sameDate := Date.eq_of_text_eq (congrArg String.toList same)
        exact .inl ⟨first, rfl, by rw [sameDate]⟩
      · rintro (⟨date, left, right⟩ | ⟨_, _, left, -⟩)
        · rw [left, right]
        · cases left
    | month second =>
      constructor
      · intro same
        exact absurd same (day_text_ne_month_text first second)
      · rintro (⟨_, -, right⟩ | ⟨_, _, left, -⟩)
        · cases right
        · cases left
  | month first =>
    cases second with
    | day second =>
      constructor
      · intro same
        exact absurd same.symm (day_text_ne_month_text second first)
      · rintro (⟨_, left, -⟩ | ⟨_, _, -, right, -⟩)
        · cases left
        · cases right
    | month second =>
      rw [month_text_eq_iff]
      constructor
      · intro same
        exact .inr ⟨first, second, rfl, rfl, same⟩
      · rintro (⟨_, left, -⟩ | ⟨_, _, left, right, same⟩)
        · cases left
        · cases left
          cases right
          exact same

/-- A rendered bucket consists of digits and signs. -/
theorem letters_of_bucket
    {bucket : Bucket}
    {letter : Char}
    (member : letter ∈ bucket.text.toList) :
    letter.isDigit = true ∨ letter = '-' ∨ letter = '+' := by
  have year {year : Int} (inYear : letter ∈ (yearText year).toList) :
      letter.isDigit = true ∨ letter = '-' ∨ letter = '+' := by
    rcases yearText_cases year with ⟨-, text⟩ | ⟨-, text⟩ | ⟨-, text⟩ <;> rw [text] at inYear
    · rcases List.mem_cons.mp inYear with sign | digit
      · exact .inr (.inl sign)
      · exact .inl (isDigit_of_mem_padded digit)
    · rcases List.mem_cons.mp inYear with sign | digit
      · exact .inr (.inr sign)
      · exact .inl (isDigit_of_mem_padded digit)
    · exact .inl (isDigit_of_mem_padded inYear)
  have number {width value : Nat} (inNumber : letter ∈ (padded width value).toList) :
      letter.isDigit = true ∨ letter = '-' ∨ letter = '+' :=
    .inl (isDigit_of_mem_padded inNumber)
  cases bucket with
  | day date =>
    change letter ∈ date.text.toList at member
    rw [toList_date] at member
    simp only [List.mem_append, List.mem_cons, List.cons_append] at member
    rcases member with inYear | hyphen | inMonth | hyphen | inDay
    · exact year inYear
    · exact .inr (.inl hyphen)
    · exact number inMonth
    · exact .inr (.inl hyphen)
    · exact number inDay
  | month date =>
    rw [toList_month] at member
    simp only [List.mem_append, List.mem_cons] at member
    rcases member with inMonth | hyphen | inYear
    · exact number inMonth
    · exact .inr (.inl hyphen)
    · exact year inYear

end RepoVitals.Calendar

import RepoVitals.Proofs.Identity.NaturalKey
import Mathlib.Data.List.GetD
/-!
Document ids: what an id says about the digest it was made of.

Owns:
- the layout of an id, position by position, and its form as a version 8 UUID in lower case;
- the bits of a digest that the marks overwrite, and what is left of the others;
- `documentId_eq_iff`: two ids are equal just when the digests agree in those other bits;
- `document_id_tells_key_and_digest`: everything that an id and its hashed bytes tell about a key.
-/

namespace RepoVitals.Identity

open Text (hexDigit)

/-! ### Layout -/

/-- A hexadecimal digit of bytes, counted from their start. -/
def digitAt (bytes : List UInt8) (digit : Nat) : Char :=
  hexDigit (if digit % 2 = 0 then (bytes.getD (digit / 2) 0).toNat / 16
    else (bytes.getD (digit / 2) 0).toNat % 16)

/-- The positions of an id: a digit of the sixteen bytes, or a hyphen. -/
def layout : List (Option Nat) :=
  (List.range' 0 8).map some ++ none :: (List.range' 8 4).map some ++
    none :: (List.range' 12 4).map some ++ none :: (List.range' 16 4).map some ++
    none :: (List.range' 20 12).map some

/-- The letter at a position of the layout. -/
def letterAt (bytes : List UInt8) : Option Nat → Char
  | none => '-'
  | some digit => digitAt bytes digit

theorem toList_hyphenated
    {bytes : List UInt8}
    (sixteen : bytes.length = 16) :
    (hyphenated bytes).toList = layout.map (letterAt bytes) := by
  match bytes, sixteen with
  | [_, _, _, _, _, _, _, _, _, _, _, _, _, _, _, _], _ =>
    rw [hyphenated, String.toList_ofList]
    rfl

/-! ### Marks -/

theorem getD_markVersion
    {bytes : List UInt8}
    {position : Nat}
    (inside : position < bytes.length) :
    (markVersion bytes).getD position 0 = markByte position (bytes.getD position 0) := by
  have inside' : position < (markVersion bytes).length := by
    rw [markVersion, List.length_mapIdx]
    exact inside
  rw [List.getD_eq_getElem _ _ inside, List.getD_eq_getElem _ _ inside']
  simp only [markVersion, List.getElem_mapIdx]

/-- A bit of bytes, counted from the first and most significant one. -/
def bitAt (bytes : List UInt8) (position : Nat) : Bool :=
  (bytes.getD (position / 8) 0).toNat.testBit (7 - position % 8)

/-- The bits that carry version and variant. -/
def markedBits : List Nat := [48, 49, 50, 51, 64, 65]

/-- A mark sets the first of its bits and clears the others; the remaining bits stay. -/
theorem testBit_markByte
    (position : Nat)
    (byte : UInt8)
    {bit : Nat}
    (small : bit < 8) :
    (markByte position byte).toNat.testBit (7 - bit) =
      if 8 * position + bit ∈ markedBits then decide (bit = 0)
      else byte.toNat.testBit (7 - bit) := by
  unfold markByte
  by_cases version : position = 6
  · rw [if_pos version, version, UInt8.toNat_or, UInt8.toNat_and, Nat.testBit_or, Nat.testBit_and]
    match bit, small with
    | 0, _ | 1, _ | 2, _ | 3, _ => simp [markedBits, Nat.testBit]
    | 4, _ | 5, _ | 6, _ | 7, _ => simp [markedBits, Nat.testBit]
  · rw [if_neg version]
    by_cases variant : position = 8
    · rw [if_pos variant, variant, UInt8.toNat_or, UInt8.toNat_and, Nat.testBit_or,
        Nat.testBit_and]
      match bit, small with
      | 0, _ | 1, _ | 2, _ | 3, _ => simp [markedBits, Nat.testBit]
      | 4, _ | 5, _ | 6, _ | 7, _ => simp [markedBits, Nat.testBit]
    · have unmarked : 8 * position + bit ∉ markedBits := by
        simp only [markedBits, List.mem_cons, List.not_mem_nil, or_false]
        omega
      rw [if_neg variant, if_neg unmarked]

/-- A byte is told by its eight bits. -/
theorem byte_eq_iff (first second : UInt8) :
    first = second ↔
      ∀ bit < 8, first.toNat.testBit (7 - bit) = second.toNat.testBit (7 - bit) := by
  constructor
  · intro same bit _
    rw [same]
  · intro agree
    apply UInt8.toNat_inj.mp
    apply Nat.eq_of_testBit_eq
    intro place
    by_cases low : place < 8
    · have := agree (7 - place) (by omega)
      rwa [show 7 - (7 - place) = place by omega] at this
    · have high {byte : UInt8} : byte.toNat.testBit place = false :=
        Nat.testBit_lt_two_pow (Nat.lt_of_lt_of_le byte.toNat_lt
          (Nat.pow_le_pow_right (by decide) (by omega)))
      rw [high, high]

theorem markByte_eq_iff (position : Nat) (first second : UInt8) :
    markByte position first = markByte position second ↔
      ∀ bit < 8, 8 * position + bit ∉ markedBits →
        first.toNat.testBit (7 - bit) = second.toNat.testBit (7 - bit) := by
  rw [byte_eq_iff]
  refine forall_congr' fun bit => forall_congr' fun small => ?_
  rw [testBit_markByte position first small, testBit_markByte position second small]
  by_cases marked : 8 * position + bit ∈ markedBits
  · rw [if_pos marked, if_pos marked]
    exact ⟨fun _ unmarked => absurd marked unmarked, fun _ => rfl⟩
  · rw [if_neg marked, if_neg marked]
    exact ⟨fun same _ => same, fun same => same marked⟩

/-! ### Digits -/

theorem hexDigit_mem {value : Nat} (small : value < 16) :
    hexDigit value ∈ "0123456789abcdef".toList := by
  revert value
  decide

theorem eq_of_hexDigit_eq
    {first second : Nat}
    (small : first < 16)
    (small' : second < 16)
    (same : hexDigit first = hexDigit second) :
    first = second := by
  have all : ∀ first < 16, ∀ second < 16, hexDigit first = hexDigit second → first = second := by
    decide
  exact all first small second small' same

theorem digitAt_mem (bytes : List UInt8) (digit : Nat) :
    digitAt bytes digit ∈ "0123456789abcdef".toList := by
  have bound := (bytes.getD (digit / 2) 0).toNat_lt
  unfold digitAt
  apply hexDigit_mem
  split <;> omega

/-- The two digits of a byte tell the byte. -/
theorem getD_eq_of_digits
    {first second : List UInt8}
    {position : Nat}
    (high : digitAt first (2 * position) = digitAt second (2 * position))
    (low : digitAt first (2 * position + 1) = digitAt second (2 * position + 1)) :
    first.getD position 0 = second.getD position 0 := by
  unfold digitAt at high low
  rw [show 2 * position / 2 = position by omega, if_pos (by omega), if_pos (by omega)] at high
  rw [show (2 * position + 1) / 2 = position by omega, if_neg (by omega), if_neg (by omega)] at low
  have bound := (first.getD position 0).toNat_lt
  have bound' := (second.getD position 0).toNat_lt
  have highs := eq_of_hexDigit_eq (by omega) (by omega) high
  have lows := eq_of_hexDigit_eq (by omega) (by omega) low
  apply UInt8.toNat_inj.mp
  omega

theorem hyphenated_eq_iff
    {first second : List UInt8}
    (sixteen : first.length = 16)
    (sixteen' : second.length = 16) :
    hyphenated first = hyphenated second ↔
      ∀ position < 16, first.getD position 0 = second.getD position 0 := by
  constructor
  · intro same position inside
    have letters := congrArg String.toList same
    rw [toList_hyphenated sixteen, toList_hyphenated sixteen'] at letters
    have digits : ∀ digit < 32, digitAt first digit = digitAt second digit := by
      intro digit isDigit
      have placed : ∀ digit < 32, some digit ∈ layout := by decide
      exact List.map_inj_left.mp letters (some digit) (placed digit isDigit)
    exact getD_eq_of_digits (digits _ (by omega)) (digits _ (by omega))
  · intro same
    congr 1
    apply List.ext_getElem (by rw [sixteen, sixteen'])
    intro position inside inside'
    have := same position (by omega)
    rwa [List.getD_eq_getElem _ _ inside, List.getD_eq_getElem _ _ inside'] at this

/-! ### Ids -/

theorem length_digest (message : List UInt8) : (Sha256.digest message).length = 32 := by
  simp [Sha256.digest, Sha256.bytesOfWord]

/-- The bytes that an id is written from. -/
def idBytes (key : NaturalKey) : List UInt8 :=
  markVersion ((Sha256.digest key.bytes).take 16)

theorem length_idBytes (key : NaturalKey) : (idBytes key).length = 16 := by
  rw [idBytes, markVersion, List.length_mapIdx, List.length_take, length_digest]
  rfl

theorem getD_idBytes (key : NaturalKey) {position : Nat} (inside : position < 16) :
    (idBytes key).getD position 0 =
      markByte position ((Sha256.digest key.bytes).getD position 0) := by
  have taken : position < ((Sha256.digest key.bytes).take 16).length := by
    rw [List.length_take, length_digest]
    omega
  rw [idBytes, getD_markVersion taken]
  simp only [List.getD_eq_getElem?_getD, List.getElem?_take_of_lt inside]

/-- Ids differ just where the digests differ in a bit that is not overwritten. -/
theorem documentId_eq_iff (first second : NaturalKey) :
    documentId first = documentId second ↔
      ∀ position < 128, position ∉ markedBits →
        bitAt (Sha256.digest first.bytes) position =
          bitAt (Sha256.digest second.bytes) position := by
  change hyphenated (idBytes first) = hyphenated (idBytes second) ↔ _
  rw [hyphenated_eq_iff (length_idBytes first) (length_idBytes second)]
  constructor
  · intro same position inside unmarked
    have sameByte := same (position / 8) (by omega)
    rw [getD_idBytes first (by omega), getD_idBytes second (by omega), markByte_eq_iff] at sameByte
    exact sameByte (position % 8) (by omega) (by rwa [Nat.div_add_mod])
  · intro same position inside
    rw [getD_idBytes first inside, getD_idBytes second inside, markByte_eq_iff]
    intro bit small unmarked
    have sameBit := same (8 * position + bit) (by omega) unmarked
    unfold bitAt at sameBit
    rwa [show (8 * position + bit) / 8 = position by omega,
      show (8 * position + bit) % 8 = bit by omega] at sameBit

/-- The form of a version 8 UUID in lower case. -/
structure IsVersionEight (id : String) : Prop where
  length : id.length = 36
  hyphens : ∀ position, id.toList[position]? = some '-' ↔ position ∈ [8, 13, 18, 23]
  letters : ∀ letter ∈ id.toList, letter = '-' ∨ letter ∈ "0123456789abcdef".toList
  version : id.toList[14]? = some '8'
  variant : ∃ letter ∈ ['8', '9', 'a', 'b'], id.toList[19]? = some letter

theorem marked_digits (byte : UInt8) :
    hexDigit ((markByte 6 byte).toNat / 16) = '8' ∧
      hexDigit ((markByte 8 byte).toNat / 16) ∈ ['8', '9', 'a', 'b'] := by
  have all : ∀ value < 256,
      hexDigit ((markByte 6 (UInt8.ofNat value)).toNat / 16) = '8' ∧
        hexDigit ((markByte 8 (UInt8.ofNat value)).toNat / 16) ∈ ['8', '9', 'a', 'b'] := by
    decide +kernel
  have := all byte.toNat byte.toNat_lt
  rwa [UInt8.ofNat_toNat] at this

theorem isVersionEight_documentId (key : NaturalKey) : IsVersionEight (documentId key) := by
  have text : (documentId key).toList = layout.map (letterAt (idBytes key)) :=
    toList_hyphenated (length_idBytes key)
  have noHyphen (digit : Nat) : digitAt (idBytes key) digit ≠ '-' := by
    intro hyphen
    have member := digitAt_mem (idBytes key) digit
    rw [hyphen] at member
    exact absurd member (by decide)
  refine ⟨?_, ?_, ?_, ?_, ?_⟩
  · rw [← String.length_toList, text]
    rfl
  · intro position
    have places : ∀ position < 36, layout[position]? = some none ↔ position ∈ [8, 13, 18, 23] := by
      decide
    rw [text, List.getElem?_map]
    by_cases inside : position < 36
    · rw [← places position inside]
      cases layout[position]? with
      | none => simp
      | some place =>
        cases place with
        | none => simp [letterAt]
        | some digit => simp [letterAt, noHyphen]
    · rw [List.getElem?_eq_none (Nat.le_of_not_lt inside)]
      simp only [Option.map_none, List.mem_cons, List.not_mem_nil, or_false, reduceCtorEq,
        false_iff]
      omega
  · intro letter member
    rw [text] at member
    obtain ⟨place, -, rfl⟩ := List.mem_map.mp member
    cases place with
    | none => exact .inl rfl
    | some digit => exact .inr (digitAt_mem _ digit)
  · have digit : digitAt (idBytes key) 12 = '8' := by
      show hexDigit (((idBytes key).getD 6 0).toNat / 16) = '8'
      rw [getD_idBytes key (by decide)]
      exact (marked_digits _).1
    rw [text, ← digit]
    rfl
  · have digit : digitAt (idBytes key) 16 ∈ ['8', '9', 'a', 'b'] := by
      show hexDigit (((idBytes key).getD 8 0).toNat / 16) ∈ _
      rw [getD_idBytes key (by decide)]
      exact (marked_digits _).2
    refine ⟨_, digit, ?_⟩
    rw [text]
    rfl

/-- **Ids are faithful to natural keys.**  The hashed bytes tell the four parts of a key whose
family and repository are clear of the separator, and a rendered bucket tells its day or its month.
Two keys share an id just when their digests agree in the first 128 bits that carry neither version
nor variant, and every id has the form of a version 8 UUID. -/
theorem document_id_tells_key_and_digest (first second : NaturalKey) :
    (first.Clear → second.Clear →
      (first.bytes = second.bytes ↔
        first.family = second.family ∧ first.name = second.name ∧
          first.bucket.text = second.bucket.text ∧ first.repository = second.repository)) ∧
    (∀ bucket bucket' : Calendar.Bucket, bucket.text = bucket'.text ↔
      (∃ date, bucket = .day date ∧ bucket' = .day date) ∨
      (∃ date date', bucket = .month date ∧ bucket' = .month date' ∧
        date.year = date'.year ∧ date.month = date'.month)) ∧
    (documentId first = documentId second ↔
      ∀ position < 128, position ∉ markedBits →
        bitAt (Sha256.digest first.bytes) position =
          bitAt (Sha256.digest second.bytes) position) ∧
    IsVersionEight (documentId first) :=
  ⟨NaturalKey.bytes_eq_iff, Calendar.Bucket.text_eq_iff, documentId_eq_iff first second,
    isVersionEight_documentId first⟩

/-- The separator in a name does not make a key look like another one. -/
theorem document_id_tells_key_with_separator_in_name :
    (⟨"label-metrics", "a\x1f2024-06-01", .day ⟨2024, 6, 1, by decide⟩, "b"⟩ : NaturalKey).bytes ≠
      (⟨"label-metrics", "a", .day ⟨2024, 6, 1, by decide⟩, "b"⟩ : NaturalKey).bytes := by
  intro same
  have parts := (document_id_tells_key_and_digest _ _).1 ⟨by decide, by decide⟩
    ⟨by decide, by decide⟩ |>.mp same
  exact absurd parts.2.1 (by decide)

end RepoVitals.Identity

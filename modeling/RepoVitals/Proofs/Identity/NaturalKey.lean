import RepoVitals.Identity.DocumentId
import RepoVitals.Proofs.Calendar.Rendering
import RepoVitals.Proofs.Text.Bytes
/-!
Natural keys as text: what the hashed bytes say about the key.

Owns:
- cutting a text at its first and at its last separator;
- `NaturalKey.bytes_eq_iff`: the bytes of a key tell its four parts, if family and repository do not
  contain the separator.

The name may contain the separator.  The first separator ends the family and the last one starts the
repository; of what is left, the last separator starts the bucket, whose letters are digits and
signs.
-/

namespace RepoVitals.Identity

/-! ### Cutting at a separator -/

section Cutting

variable {α : Type} {mark : α}

/-- The first mark of a list tells what stands in front of it. -/
theorem eq_of_first_mark
    {left left' right right' : List α}
    (clear : mark ∉ left)
    (clear' : mark ∉ left')
    (same : left ++ mark :: right = left' ++ mark :: right') :
    left = left' ∧ right = right' := by
  induction left generalizing left' with
  | nil =>
    cases left' with
    | nil => exact ⟨rfl, (List.cons.inj same).2⟩
    | cons head rest =>
      have isHead : mark = head := (List.cons.inj same).1
      exact absurd (isHead ▸ List.mem_cons_self) clear'
  | cons head rest inductionHypothesis =>
    cases left' with
    | nil =>
      have isHead : head = mark := (List.cons.inj same).1
      exact absurd (isHead ▸ List.mem_cons_self) clear
    | cons head' rest' =>
      obtain ⟨sameHead, sameRest⟩ := List.cons.inj same
      obtain ⟨rests, rights⟩ := inductionHypothesis
        (fun member => clear (List.mem_cons_of_mem _ member))
        (fun member => clear' (List.mem_cons_of_mem _ member)) sameRest
      exact ⟨by rw [sameHead, rests], rights⟩

/-- The last mark of a list tells what follows it. -/
theorem eq_of_last_mark
    {left left' right right' : List α}
    (clear : mark ∉ right)
    (clear' : mark ∉ right')
    (same : left ++ mark :: right = left' ++ mark :: right') :
    left = left' ∧ right = right' := by
  have turned :
      right.reverse ++ mark :: left.reverse = right'.reverse ++ mark :: left'.reverse := by
    simpa using congrArg List.reverse same
  obtain ⟨rights, lefts⟩ := eq_of_first_mark
    (fun member => clear (List.mem_reverse.mp member))
    (fun member => clear' (List.mem_reverse.mp member)) turned
  exact ⟨List.reverse_inj.mp lefts, List.reverse_inj.mp rights⟩

end Cutting

/-! ### Parts of a key -/

/-- The separator occurs neither in the family nor in the repository of the key. -/
structure NaturalKey.Clear (key : NaturalKey) : Prop where
  family : '\x1f' ∉ key.family.toList
  repository : '\x1f' ∉ key.repository.toList

theorem separator_not_mem_bucket (bucket : Calendar.Bucket) : '\x1f' ∉ bucket.text.toList := by
  intro member
  rcases Calendar.letters_of_bucket member with digit | hyphen | plus
  · exact absurd digit (by decide)
  · exact absurd hyphen (by decide)
  · exact absurd plus (by decide)

theorem toList_key (key : NaturalKey) :
    key.text.toList =
      key.family.toList ++ '\x1f' ::
        ((key.name.toList ++ '\x1f' :: key.bucket.text.toList) ++ '\x1f' ::
          key.repository.toList) := by
  simp [NaturalKey.text, separator]

theorem NaturalKey.bytes_eq_iff
    {first second : NaturalKey}
    (clear : first.Clear)
    (clear' : second.Clear) :
    first.bytes = second.bytes ↔
      first.family = second.family ∧ first.name = second.name ∧
        first.bucket.text = second.bucket.text ∧ first.repository = second.repository := by
  unfold NaturalKey.bytes
  rw [Text.toUTF8_eq_iff]
  constructor
  · intro same
    have letters := congrArg String.toList same
    rw [toList_key, toList_key] at letters
    obtain ⟨families, rest⟩ := eq_of_first_mark clear.family clear'.family letters
    obtain ⟨middles, repositories⟩ := eq_of_last_mark clear.repository clear'.repository rest
    obtain ⟨names, buckets⟩ := eq_of_last_mark (separator_not_mem_bucket _)
      (separator_not_mem_bucket _) middles
    exact ⟨String.ext families, String.ext names, String.ext buckets, String.ext repositories⟩
  · rintro ⟨families, names, buckets, repositories⟩
    unfold NaturalKey.text
    rw [families, names, buckets, repositories]

end RepoVitals.Identity

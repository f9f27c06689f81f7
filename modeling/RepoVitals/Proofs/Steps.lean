import Mathlib.Data.List.Forall2
/-!
Work in steps that may fail.

Owns:
- what came before, where work in two steps came to a result;
- what each step keeps, and so any number of steps;
- lists side by side: what stands beside an item, and what stands behind it;
- lists that are worked off item by item, and what came of them.
-/

namespace RepoVitals

/-- A step of work that came to a result. -/
theorem Outcome.exists_of_bind_eq_ok
    {ε α β : Type}
    {outcome : Except ε α}
    {next : α → Except ε β}
    {result : β}
    (isOk : outcome >>= next = .ok result) :
    ∃ between, outcome = .ok between ∧ next between = .ok result := by
  cases outcome with
  | ok between => exact ⟨between, rfl, isOk⟩
  | error failure => cases isOk

theorem Outcome.exists_of_map_eq_ok
    {ε α β : Type}
    {outcome : Except ε α}
    {change : α → β}
    {result : β}
    (isOk : Except.map change outcome = .ok result) :
    ∃ between, outcome = .ok between ∧ change between = result := by
  cases outcome with
  | ok between => exact ⟨between, rfl, Except.ok.inj isOk⟩
  | error failure => cases isOk

/-- What each step keeps that may count the steps, a sequence of steps keeps too. -/
theorem keeps_foldlM_counting
    {σ ι : Type}
    {step : σ → ι → Option σ}
    {Good : Nat → σ → Prop}
    (keeps : ∀ count state item after, Good count state → step state item = some after →
      Good (count + 1) after)
    {items : List ι}
    {count : Nat}
    {state after : σ}
    (good : Good count state)
    (stepped : items.foldlM step state = some after) :
    Good (count + items.length) after := by
  induction items generalizing count state with
  | nil => exact Option.some.inj stepped ▸ good
  | cons item rest inductionHypothesis =>
    rw [List.foldlM_cons] at stepped
    obtain ⟨between, isBetween, stepped⟩ := Option.bind_eq_some_iff.mp stepped
    rw [List.length_cons, Nat.add_comm rest.length, ← Nat.add_assoc]
    exact inductionHypothesis (keeps count state item between good isBetween) stepped

/-- What each step keeps, a sequence of steps keeps too. -/
theorem keeps_foldlM
    {σ ι : Type}
    {step : σ → ι → Option σ}
    {Good : σ → Prop}
    (keeps : ∀ state item after, Good state → step state item = some after → Good after)
    {items : List ι}
    {state after : σ}
    (good : Good state)
    (stepped : items.foldlM step state = some after) :
    Good after :=
  @keeps_foldlM_counting _ _ step (fun _ => Good) (fun _ => keeps) items 0 state after good stepped

/-! ### Lists side by side -/

/-- Where one list is cut at an item, the other one is cut at what the item is related to. -/
theorem exists_cut_of_forall₂
    {α β : Type}
    {related : α → β → Prop}
    {before after : List α}
    {item : α}
    {results : List β}
    (alike : List.Forall₂ related (before ++ item :: after) results) :
    ∃ before' result after', results = before' ++ result :: after' ∧ related item result ∧
      List.Forall₂ related after after' := by
  have later := List.forall₂_drop_append _ _ _ (List.Forall₂.flip alike)
  cases isRest : results.drop before.length with
  | nil =>
    rw [isRest] at later
    cases later
  | cons result after' =>
    rw [isRest] at later
    obtain _ | ⟨here, rest⟩ := later
    refine ⟨results.take before.length, result, after', ?_, here, rest.flip⟩
    rw [← isRest, List.take_append_drop]

theorem exists_mem_of_forall₂
    {α β : Type}
    {related : α → β → Prop}
    {items : List α}
    {results : List β}
    (alike : List.Forall₂ related items results)
    {item : α}
    (isItem : item ∈ items) :
    ∃ result ∈ results, related item result := by
  obtain ⟨before, after, rfl⟩ := List.append_of_mem isItem
  obtain ⟨before', result, after', rfl, isResult, -⟩ := exists_cut_of_forall₂ alike
  exact ⟨result, List.mem_append_right _ List.mem_cons_self, isResult⟩

/-- A list stands beside another one exactly if something stands beside each of its items. -/
theorem exists_forall₂_iff {α β : Type} {related : α → β → Prop} {items : List α} :
    (∃ results, List.Forall₂ related items results) ↔
      ∀ item ∈ items, ∃ result, related item result := by
  constructor
  · rintro ⟨results, alike⟩ item isItem
    obtain ⟨result, -, isResult⟩ := exists_mem_of_forall₂ alike isItem
    exact ⟨result, isResult⟩
  · intro each
    induction items with
    | nil => exact ⟨[], .nil⟩
    | cons item rest inductionHypothesis =>
      obtain ⟨here, later⟩ := List.forall_mem_cons.mp each
      obtain ⟨first, isFirst⟩ := here
      obtain ⟨others, areOthers⟩ := inductionHypothesis later
      exact ⟨first :: others, .cons isFirst areOthers⟩

theorem rel_getElem?
    {α β : Type}
    {related : α → β → Prop}
    {items : List α}
    {items' : List β}
    (alike : List.Forall₂ related items items')
    (position : Nat) :
    Option.Rel related items[position]? items'[position]? := by
  induction alike generalizing position with
  | nil => exact .none
  | cons here later inductionHypothesis =>
    cases position with
    | zero => exact .some here
    | succ position => exact inductionHypothesis position

theorem forall₂_set
    {α β : Type}
    {related : α → β → Prop}
    {items : List α}
    {items' : List β}
    {item : α}
    {item' : β}
    (alike : List.Forall₂ related items items')
    (position : Nat)
    (replaced : related item item') :
    List.Forall₂ related (items.set position item) (items'.set position item') := by
  induction alike generalizing position with
  | nil => exact .nil
  | cons here later inductionHypothesis =>
    cases position with
    | zero => exact .cons replaced later
    | succ position => exact .cons here (inductionHypothesis position)

/-! ### Lists worked off item by item -/

/-- Working off a list is working off every item. -/
theorem mapM_eq_ok_iff
    {ε α β : Type}
    {read : α → Except ε β}
    {items : List α}
    {results : List β} :
    items.mapM read = .ok results ↔
      List.Forall₂ (fun item result => read item = .ok result) items results := by
  induction items generalizing results with
  | nil =>
    constructor
    · intro areResults
      cases areResults
      exact .nil
    · intro alike
      cases alike
      rfl
  | cons item rest inductionHypothesis =>
    rw [List.mapM_cons]
    constructor
    · intro areResults
      obtain ⟨first, isFirst, areResults⟩ := Outcome.exists_of_bind_eq_ok areResults
      obtain ⟨others, areOthers, isCons⟩ := Outcome.exists_of_bind_eq_ok areResults
      cases isCons
      exact .cons isFirst (inductionHypothesis.mp areOthers)
    · intro alike
      obtain _ | ⟨isFirst, areOthers⟩ := alike
      rw [isFirst, inductionHypothesis.mpr areOthers]
      rfl

theorem mapM_eq_some_iff
    {α β : Type}
    {read : α → Option β}
    {items : List α}
    {results : List β} :
    items.mapM read = some results ↔
      List.Forall₂ (fun item result => read item = some result) items results := by
  induction items generalizing results with
  | nil =>
    rw [List.mapM_nil, List.forall₂_nil_left_iff]
    exact ⟨fun areResults => (Option.some.inj areResults).symm, fun none => none ▸ rfl⟩
  | cons item rest inductionHypothesis =>
    simp only [List.mapM_cons, List.forall₂_cons_left_iff, Option.bind_eq_bind,
      Option.bind_eq_some_iff, inductionHypothesis]
    constructor
    · rintro ⟨first, isFirst, others, areOthers, isCons⟩
      exact ⟨first, others, isFirst, areOthers, (Option.some.inj isCons).symm⟩
    · rintro ⟨first, others, isFirst, areOthers, rfl⟩
      exact ⟨first, isFirst, others, areOthers, rfl⟩

/-- All results are there exactly if each of them is. -/
theorem exists_mapM_eq_ok_iff {ε α β : Type} {read : α → Except ε β} {items : List α} :
    (∃ results, items.mapM read = .ok results) ↔
      ∀ item ∈ items, ∃ result, read item = .ok result := by
  simp only [mapM_eq_ok_iff, exists_forall₂_iff]

theorem exists_mapM_eq_some_iff {α β : Type} {read : α → Option β} {items : List α} :
    (∃ results, items.mapM read = some results) ↔
      ∀ item ∈ items, ∃ result, read item = some result := by
  simp only [mapM_eq_some_iff, exists_forall₂_iff]

/-- What was read item by item comes from an item. -/
theorem exists_of_mem_mapM
    {ε α β : Type}
    {items : List α}
    {read : α → Except ε β}
    {results : List β}
    (areResults : items.mapM read = .ok results)
    {result : β}
    (member : result ∈ results) :
    ∃ item ∈ items, read item = .ok result :=
  exists_mem_of_forall₂ (mapM_eq_ok_iff.mp areResults).flip member

end RepoVitals

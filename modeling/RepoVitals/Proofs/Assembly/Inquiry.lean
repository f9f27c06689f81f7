import RepoVitals.Assembly.Volley
import Mathlib.Data.List.Forall2
/-!
Inquiries that come to a result.

Owns:
- the run of a composed inquiry in terms of the runs of its parts;
- `Inquiry.Succeeds`: whatever was asked before, an executor brings an inquiry to a result with a
  property; one rule for each way of building an inquiry;
- the run of a volley whose result is changed.

An executor may let its answers depend on what was asked before, so a rule that composes two
inquiries has to speak of all pasts.
-/

namespace RepoVitals.Assembly

open Search (Request Response)

namespace Inquiry

variable {α β : Type} {executor : Executor}

/-! ### Runs -/

theorem run_bind (inquiry : Inquiry α) (next : α → Inquiry β) (asked : List Request) :
    (inquiry >>= next).run executor asked =
      match inquiry.run executor asked with
      | (askedThen, .ok result) => (next result).run executor askedThen
      | (askedThen, .error failure) => (askedThen, .error failure) := by
  induction inquiry generalizing asked with
  | done result => rfl
  | failed failure => rfl
  | ask request resume inductionHypothesis => exact inductionHypothesis _ _

theorem run_within (inquiry : Inquiry α) (circumstance : Circumstance) (asked : List Request) :
    (inquiry.within circumstance).run executor asked =
      ((inquiry.run executor asked).1,
        (inquiry.run executor asked).2.mapError (fun failure => failure.within circumstance)) := by
  induction inquiry generalizing asked with
  | done result => rfl
  | failed failure => rfl
  | ask request resume inductionHypothesis => exact inductionHypothesis _ _

/-! ### Success -/

/-- Whatever was asked before, the executor brings the inquiry to a result with the property. -/
def Succeeds (executor : Executor) (inquiry : Inquiry α) (property : α → Prop) : Prop :=
  ∀ asked, ∃ result, (inquiry.run executor asked).2 = .ok result ∧ property result

namespace Succeeds

theorem imp
    {inquiry : Inquiry α}
    {property property' : α → Prop}
    (success : inquiry.Succeeds executor property)
    (weaker : ∀ result, property result → property' result) :
    inquiry.Succeeds executor property' := by
  intro asked
  obtain ⟨result, isResult, holds⟩ := success asked
  exact ⟨result, isResult, weaker result holds⟩

theorem pure {result : α} {property : α → Prop} (holds : property result) :
    (Pure.pure result : Inquiry α).Succeeds executor property :=
  fun _ => ⟨result, rfl, holds⟩

theorem bind
    {inquiry : Inquiry α}
    {next : α → Inquiry β}
    {between : α → Prop}
    {property : β → Prop}
    (first : inquiry.Succeeds executor between)
    (second : ∀ result, between result → (next result).Succeeds executor property) :
    (inquiry >>= next).Succeeds executor property := by
  intro asked
  obtain ⟨result, isResult, holds⟩ := first asked
  obtain ⟨final, isFinal, holdsFinal⟩ := second result holds (inquiry.run executor asked).1
  refine ⟨final, ?_, holdsFinal⟩
  rw [run_bind]
  cases course : inquiry.run executor asked with
  | mk askedThen outcome =>
    rw [course] at isResult isFinal
    cases isResult
    exact isFinal

theorem within
    {inquiry : Inquiry α}
    {property : α → Prop}
    (success : inquiry.Succeeds executor property)
    (circumstance : Circumstance) :
    (inquiry.within circumstance).Succeeds executor property := by
  intro asked
  obtain ⟨result, isResult, holds⟩ := success asked
  refine ⟨result, ?_, holds⟩
  rw [run_within, isResult]
  rfl

theorem ofOutcome
    {outcome : Outcome α}
    {property : α → Prop}
    {result : α}
    (isResult : outcome = .ok result)
    (holds : property result) :
    (Inquiry.ofOutcome outcome).Succeeds executor property := by
  subst isResult
  exact pure holds

theorem search
    {request : Request}
    {property : Response → Prop}
    (answered : ∀ asked, ∃ response, executor asked request = .ok response ∧ property response) :
    (Inquiry.search request).Succeeds executor property := by
  intro asked
  obtain ⟨response, isAnswer, holds⟩ := answered asked
  refine ⟨response, ?_, holds⟩
  show ((Inquiry.ofOutcome (executor asked request)).run executor _).2 = _
  rw [isAnswer]
  rfl

/-- One inquiry after the other gives their results in order. -/
theorem forEach
    {items : List β}
    {inquiryOf : β → Inquiry α}
    {property : β → α → Prop}
    (each : ∀ item ∈ items, (inquiryOf item).Succeeds executor (property item)) :
    (Inquiry.forEach items inquiryOf).Succeeds executor (List.Forall₂ property items) := by
  induction items with
  | nil => exact pure List.Forall₂.nil
  | cons item rest inductionHypothesis =>
    refine bind (each item List.mem_cons_self) fun result holds => ?_
    refine bind (inductionHypothesis fun later member => each later (List.mem_cons_of_mem _ member))
      fun results hold => ?_
    exact pure (List.Forall₂.cons holds hold)

theorem forEach_eq
    {items : List β}
    {inquiryOf : β → Inquiry α}
    {expected : β → α}
    (each : ∀ item ∈ items, (inquiryOf item).Succeeds executor (· = expected item)) :
    (Inquiry.forEach items inquiryOf).Succeeds executor (· = items.map expected) := by
  refine imp (forEach each) fun results all => ?_
  have same : List.Forall₂ (· = ·) (items.map expected) results :=
    List.forall₂_map_left_iff.mpr (all.imp fun _ _ => Eq.symm)
  rw [List.forall₂_eq_eq_eq] at same
  exact same.symm

end Succeeds

theorem forEach_map
    {γ : Type}
    (items : List α)
    (change : α → β)
    (inquiryOf : β → Inquiry γ) :
    forEach (items.map change) inquiryOf = forEach items (fun item => inquiryOf (change item)) := by
  induction items with
  | nil => rfl
  | cons item rest inductionHypothesis =>
    simp only [List.map_cons, forEach, inductionHypothesis]

/-! ### Volleys -/

theorem run_ofSearches_map
    (change : α → β)
    (searches : List Request)
    (reading : Reading α searches.length)
    (asked : List Request) :
    (ofSearches searches (reading.map change)).run executor asked =
      (((ofSearches searches reading).run executor asked).1,
        ((ofSearches searches reading).run executor asked).2.map change) := by
  induction searches generalizing asked with
  | nil =>
    cases reading with
    | ok result => rfl
    | error failure => rfl
  | cons search rest inductionHypothesis =>
    simp only [ofSearches, run_bind]
    cases course : (Inquiry.search search).run executor asked with
    | mk askedThen outcome =>
      cases outcome with
      | ok answer => exact inductionHypothesis (reading answer) askedThen
      | error failure => rfl

end Inquiry

namespace Volley

variable {α β : Type} {executor : Executor}

/-- Changing the result of a volley does not change what it asks. -/
theorem run_map (change : α → β) (volley : Volley α) (asked : List Request) :
    (volley.map change).inquiry.run executor asked =
      ((volley.inquiry.run executor asked).1,
        (volley.inquiry.run executor asked).2.map change) := by
  have changed : (volley.map change).inquiry =
      (Inquiry.ofSearches volley.searches (volley.reading.map change)).within
        volley.circumstance :=
    rfl
  rw [changed, inquiry, Inquiry.run_within, Inquiry.run_within, Inquiry.run_ofSearches_map]
  cases ((Inquiry.ofSearches volley.searches volley.reading).run executor asked).2 <;> rfl

theorem succeeds_map
    {volley : Volley α}
    {property : α → Prop}
    {property' : β → Prop}
    (change : α → β)
    (success : volley.inquiry.Succeeds executor property)
    (changed : ∀ result, property result → property' (change result)) :
    (volley.map change).inquiry.Succeeds executor property' := by
  intro asked
  obtain ⟨result, isResult, holds⟩ := success asked
  refine ⟨change result, ?_, changed result holds⟩
  rw [run_map, isResult]
  rfl

end Volley

end RepoVitals.Assembly

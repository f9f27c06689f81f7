import RepoVitals.Proofs.Assembly.Inquiry
import Mathlib.Data.List.Forall2
/-!
Inquiries where the same search always gets the same answer.

Owns:
- `Inquiry.resultBy`: what an inquiry comes to, told from the answers alone, since no past matters;
- the result of a composed inquiry in terms of the results of its parts;
- when one inquiry after the other succeeds, and when it fails;
- what a volley comes to, which its answers tell in whatever order they came.
-/

namespace RepoVitals.Assembly

open Search (Request Response)

variable {α β : Type}

namespace Inquiry

/-- What the inquiry comes to where every search has one answer. -/
def resultBy (answer : Request → Outcome Response) : Inquiry α → Outcome α
  | .done result => .ok result
  | .failed failure => .error failure
  | .ask request resume => (resume (answer request)).resultBy answer

variable {answer : Request → Outcome Response}

theorem run_steady (inquiry : Inquiry α) (asked : List Request) :
    (inquiry.run (.steady answer) asked).2 = inquiry.resultBy answer := by
  induction inquiry generalizing asked with
  | done result => rfl
  | failed failure => rfl
  | ask request resume inductionHypothesis => exact inductionHypothesis _ _

/-! ### Composition -/

theorem resultBy_bind (inquiry : Inquiry α) (next : α → Inquiry β) :
    (inquiry >>= next).resultBy answer =
      inquiry.resultBy answer >>= fun result => (next result).resultBy answer := by
  induction inquiry with
  | done result => rfl
  | failed failure => rfl
  | ask request resume inductionHypothesis => exact inductionHypothesis _

theorem resultBy_within (inquiry : Inquiry α) (circumstance : Circumstance) :
    (inquiry.within circumstance).resultBy answer =
      (inquiry.resultBy answer).mapError (fun failure => failure.within circumstance) := by
  induction inquiry with
  | done result => rfl
  | failed failure => rfl
  | ask request resume inductionHypothesis => exact inductionHypothesis _

theorem resultBy_search (request : Request) :
    (search request).resultBy answer = answer request := by
  show (ofOutcome (answer request)).resultBy answer = answer request
  cases answer request <;> rfl

theorem resultBy_ofOutcome (outcome : Outcome α) :
    (ofOutcome outcome).resultBy answer = outcome := by
  cases outcome <;> rfl

theorem resultBy_map (change : α → β) (inquiry : Inquiry α) :
    (inquiry >>= fun result => pure (change result)).resultBy answer =
      (inquiry.resultBy answer).map change := by
  rw [resultBy_bind]
  cases inquiry.resultBy answer <;> rfl

/-! ### One after the other -/

variable {items : List β} {inquiryOf : β → Inquiry α}

theorem resultBy_forEach_cons (item : β) (rest : List β) :
    (forEach (item :: rest) inquiryOf).resultBy answer =
      (inquiryOf item).resultBy answer >>= fun result =>
        ((forEach rest inquiryOf).resultBy answer).map (fun results => result :: results) := by
  rw [forEach, resultBy_bind]
  simp only [resultBy_map]

theorem resultBy_forEach_eq_ok_iff {results : List α} :
    (forEach items inquiryOf).resultBy answer = .ok results ↔
      List.Forall₂ (fun item result => (inquiryOf item).resultBy answer = .ok result)
        items results := by
  induction items generalizing results with
  | nil =>
    rw [List.forall₂_nil_left_iff]
    show (Except.ok [] : Outcome (List α)) = .ok results ↔ results = []
    rw [Except.ok.injEq]
    exact eq_comm
  | cons item rest inductionHypothesis =>
    rw [resultBy_forEach_cons, List.forall₂_cons_left_iff]
    cases here : (inquiryOf item).resultBy answer with
    | error failure => simp [bind, Except.bind]
    | ok result =>
      rw [Outcome.ok_bind]
      constructor
      · intro isMapped
        cases later : (forEach rest inquiryOf).resultBy answer with
        | error failure =>
          rw [later] at isMapped
          cases isMapped
        | ok others =>
          rw [later] at isMapped
          cases isMapped
          exact ⟨result, others, rfl, inductionHypothesis.mp later, rfl⟩
      · rintro ⟨first, others, isFirst, areOthers, rfl⟩
        rw [inductionHypothesis.mpr areOthers, Except.ok.inj isFirst]
        rfl

theorem exists_failure_forEach
    {item : β}
    {failure : Failure}
    (member : item ∈ items)
    (fails : (inquiryOf item).resultBy answer = .error failure) :
    ∃ failure', (forEach items inquiryOf).resultBy answer = .error failure' := by
  cases course : (forEach items inquiryOf).resultBy answer with
  | error failure' => exact ⟨failure', rfl⟩
  | ok results =>
    have all := resultBy_forEach_eq_ok_iff.mp course
    obtain ⟨index, inside, rfl⟩ := List.getElem_of_mem member
    have here := all.get inside (by rw [← all.length_eq]; exact inside)
    simp [fails] at here

/-! ### Searches -/

/-- These are answers to the searches, as far as they have come. -/
abbrev Answers (answer : Request → Outcome Response) :
    List Request → List (Option Response) → Prop :=
  List.Forall₂ (fun request found =>
    ∀ response, found = some response → answer request = .ok response)

/-- One more answer has come. -/
theorem Answers.hear
    {searches : List Request}
    {answers : List (Option Response)}
    {index : Nat}
    {request : Request}
    {response : Response}
    (answered : Answers answer searches answers)
    (asked : searches[index]? = some request)
    (heard : answer request = .ok response) :
    Answers answer searches (answers.set index (some response)) := by
  induction answered generalizing index with
  | nil => exact List.Forall₂.nil
  | cons here later inductionHypothesis =>
    cases index with
    | zero =>
      cases asked
      refine List.Forall₂.cons ?_ later
      intro other same
      cases same
      exact heard
    | succ index => exact List.Forall₂.cons here (inductionHypothesis asked)

theorem resultBy_ofSearches_of_answers
    {searches : List Request}
    {answers : List (Option Response)}
    {reading : Reading α searches.length}
    {outcome : Outcome α}
    (answered : Answers answer searches answers)
    (read : reading.outcome? _ answers = some outcome) :
    (ofSearches searches reading).resultBy answer = outcome := by
  induction searches generalizing answers with
  | nil => exact (resultBy_ofOutcome reading).trans (Option.some.inj read)
  | cons search rest inductionHypothesis =>
    obtain ⟨found, answers, here, later, rfl⟩ := List.forall₂_cons_left_iff.mp answered
    cases found with
    | none => cases read
    | some response =>
      rw [ofSearches, resultBy_bind, resultBy_search, here response rfl, Outcome.ok_bind]
      exact inductionHypothesis later read

theorem exists_failure_ofSearches
    {searches : List Request}
    {request : Request}
    {failure : Failure}
    (reading : Reading α searches.length)
    (member : request ∈ searches)
    (fails : answer request = .error failure) :
    ∃ failure', (ofSearches searches reading).resultBy answer = .error failure' := by
  induction searches with
  | nil => cases member
  | cons search rest inductionHypothesis =>
    rw [ofSearches, resultBy_bind, resultBy_search]
    cases here : answer search with
    | error first => exact ⟨first, rfl⟩
    | ok response =>
      rw [Outcome.ok_bind]
      apply inductionHypothesis
      rcases List.mem_cons.mp member with same | later
      · rw [same, here] at fails
        cases fails
      · exact later

end Inquiry

/-! ### Volleys -/

theorem Reading.exists_outcome :
    ∀ (count : Nat) (reading : Reading α count) (answers : List (Option Response)),
      answers.length = count → none ∉ answers →
        ∃ outcome, reading.outcome? count answers = some outcome
  | 0, reading, _, _, _ => ⟨reading, rfl⟩
  | count + 1, reading, some response :: rest, long, full =>
    exists_outcome count (reading response) rest (Nat.succ.inj long)
      (fun missing => full (List.mem_cons_of_mem _ missing))
  | _ + 1, _, none :: _, _, full => absurd List.mem_cons_self full
  | _ + 1, _, [], long, _ => absurd long (Nat.succ_ne_zero _).symm

namespace Volley

variable {answer : Request → Outcome Response}

/-- What the volley comes to where every search has one answer. -/
def resultBy (answer : Request → Outcome Response) (volley : Volley α) : Outcome α :=
  volley.inquiry.resultBy answer

theorem resultBy_map (change : α → β) (volley : Volley α) :
    (volley.map change).resultBy answer = (volley.resultBy answer).map change := by
  rw [resultBy, resultBy, ← Inquiry.run_steady _ [], ← Inquiry.run_steady _ [], run_map]

theorem resultBy_of_outcome?
    {volley : Volley α}
    {answers : List (Option Response)}
    {outcome : Outcome α}
    (answered : Inquiry.Answers answer volley.searches answers)
    (known : volley.outcome? answers = some outcome) :
    volley.resultBy answer = outcome := by
  obtain ⟨read, isRead, rfl⟩ := Option.map_eq_some_iff.mp known
  rw [resultBy, inquiry, Inquiry.resultBy_within,
    Inquiry.resultBy_ofSearches_of_answers answered isRead]

theorem exists_failure
    {volley : Volley α}
    {request : Request}
    {failure : Failure}
    (member : request ∈ volley.searches)
    (fails : answer request = .error failure) :
    ∃ failure', volley.resultBy answer = .error failure' := by
  obtain ⟨first, isFirst⟩ := Inquiry.exists_failure_ofSearches volley.reading member fails
  rw [resultBy, inquiry, Inquiry.resultBy_within, isFirst]
  exact ⟨_, rfl⟩

/-- As long as a volley comes to nothing, one of its answers is missing. -/
theorem missing_of_outcome?
    {volley : Volley α}
    {answers : List (Option Response)}
    (answered : Inquiry.Answers answer volley.searches answers)
    (unknown : volley.outcome? answers = none) :
    none ∈ answers := by
  by_contra full
  obtain ⟨outcome, isOutcome⟩ := Reading.exists_outcome _ volley.reading answers
    answered.length_eq.symm full
  rw [outcome?, isOutcome] at unknown
  cases unknown

end Volley

end RepoVitals.Assembly

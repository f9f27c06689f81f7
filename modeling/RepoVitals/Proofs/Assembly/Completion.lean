import RepoVitals.Proofs.Assembly.Fanout
import RepoVitals.Proofs.Assembly.Order
/-!
Assemblies that work on several pairs at a time.

Owns:
- where turns lead a fan-out that starts with nothing sent;
- the places of results, which are those of their pairs, so that no two results share one;
- `completion_order_irrelevant`: every order of turns ends, and with the outcome of the assembly
  that works on one pair after the other.

A batch keeps the last of several documents with one id, so it does depend on the order of
documents.  What makes up for the order of arrival is the order of places.
-/

namespace RepoVitals.Assembly

open Catalogue (Family Release Row)
open Search (Request Response)

variable {α β : Type} {answer : Request → Outcome Response}

/-! ### Where turns lead -/

namespace Fanout

theorem follow_concat (fanout : Fanout α) (turns : List FanoutTurn) (turn : FanoutTurn) :
    fanout.follow answer (turns ++ [turn]) =
      (fanout.follow answer turns).bind (fun after => after.take answer turn) := by
  induction turns generalizing fanout with
  | nil => simp [follow]
  | cons first rest inductionHypothesis =>
    simp only [List.cons_append, follow, inductionHypothesis, Option.bind_assoc]

variable {limit : Nat} {volleys : List (Volley α)} {turns : List FanoutTurn}

theorem outcome_of_standing
    {outcome : Outcome (List α)}
    (ended : (new limit volleys).standing answer turns = .over outcome) :
    (∃ results completed, outcome = .ok completed ∧ completed.Perm results ∧
        List.Forall₂ (fun volley result => volley.resultBy answer = .ok result) volleys results) ∨
      ∃ reported failure, outcome = .error reported ∧
        ∃ volley ∈ volleys, volley.resultBy answer = .error failure := by
  unfold standing at ended
  split at ended
  · cases ended
  · rename_i after followed
    split at ended
    · cases ended
    · rename_i found isOver
      cases ended
      exact (tracks_of_follow (tracks_new limit volleys) followed).outcome isOver

theorem exists_turn_of_standing
    (pending : (new limit volleys).standing answer turns = .pending) :
    ∃ turn, (new limit volleys).standing answer (turns ++ [turn]) ≠ .impossible := by
  unfold standing at pending
  split at pending
  · cases pending
  · rename_i after followed
    split at pending
    · rename_i unfinished
      obtain ⟨turn, possible⟩ :=
        (tracks_of_follow (tracks_new limit volleys) followed).getsOn unfinished
      refine ⟨turn, ?_⟩
      obtain ⟨next, taken⟩ := Option.isSome_iff_exists.mp possible
      simp only [standing, follow_concat, followed, Option.bind_some, taken]
      cases next.outcome? <;> simp
    · cases pending

theorem length_le_of_standing
    (possible : (new limit volleys).standing answer turns ≠ .impossible) :
    turns.length ≤ (new limit volleys).work := by
  cases followed : (new limit volleys).follow answer turns with
  | none =>
    exfalso
    apply possible
    simp only [standing, followed]
  | some after => exact (tracks_new limit volleys).length_le_work followed

end Fanout

theorem Standing.map_eq_over_iff
    {change : α → β}
    {standing : Standing α}
    {outcome : Outcome β} :
    standing.map change = .over outcome ↔
      ∃ found, standing = .over found ∧ outcome = Except.map change found := by
  cases standing <;> simp [Standing.map, eq_comm]

theorem Standing.map_eq_pending_iff {change : α → β} {standing : Standing α} :
    standing.map change = .pending ↔ standing = .pending := by
  cases standing <;> simp [Standing.map]

theorem Standing.map_eq_impossible_iff {change : α → β} {standing : Standing α} :
    standing.map change = .impossible ↔ standing = .impossible := by
  cases standing <;> simp [Standing.map]

/-! ### Every order -/

/-- Every order of turns leads to the result: none gets stuck, none goes on for ever, and the end is
a success with this result or a failure in its place. -/
structure Settles (standing : List FanoutTurn → Standing α) (outcome : Outcome α) : Prop where
  agrees : ∀ turns found, standing turns = .over found → found.toOption = outcome.toOption
  getsOn : ∀ turns, standing turns = .pending → ∃ turn, standing (turns ++ [turn]) ≠ .impossible
  ends : ∃ limit, ∀ turns, standing turns ≠ .impossible → turns.length ≤ limit

/-- A fan-out settles if the order of results does not matter for what is made of them. -/
theorem settles_fanout
    {volleys : List (Volley α)}
    (limit : Nat)
    (change : List α → β)
    (unordered : ∀ results completed : List α, completed.Perm results →
      List.Forall₂ (fun volley result => volley.resultBy answer = .ok result) volleys results →
        change completed = change results) :
    Settles (fun turns => ((Fanout.new limit volleys).standing answer turns).map change)
      (((Volley.inquireAll volleys).resultBy answer).map change) where
  agrees := by
    intro turns found ended
    obtain ⟨outcome, isOver, rfl⟩ := Standing.map_eq_over_iff.mp ended
    rcases Fanout.outcome_of_standing isOver with
      ⟨results, completed, rfl, same, all⟩ | ⟨reported, failure, rfl, volley, member, fails⟩
    · have sequential : (Volley.inquireAll volleys).resultBy answer = .ok results :=
        Inquiry.resultBy_forEach_eq_ok_iff.mpr all
      rw [sequential]
      exact congrArg some (unordered results completed same all)
    · obtain ⟨first, isFirst⟩ := Inquiry.exists_failure_forEach member fails
      rw [Volley.inquireAll, isFirst]
      rfl
  getsOn := by
    intro turns pending
    obtain ⟨turn, possible⟩ :=
      Fanout.exists_turn_of_standing (Standing.map_eq_pending_iff.mp pending)
    refine ⟨turn, ?_⟩
    rwa [Ne, Standing.map_eq_impossible_iff]
  ends := by
    refine ⟨(Fanout.new limit volleys).work, ?_⟩
    intro turns possible
    apply Fanout.length_le_of_standing
    rwa [Ne, Standing.map_eq_impossible_iff] at possible

theorem settles_failure (failure : Failure) :
    Settles (fun turns => if turns = [] then .over (.error failure) else .impossible)
      (.error failure : Outcome α) where
  agrees := by
    intro turns found ended
    split at ended
    · cases ended
      rfl
    · cases ended
  getsOn := by
    intro turns pending
    split at pending <;> cases pending
  ends := by
    refine ⟨0, ?_⟩
    intro turns possible
    by_cases none : turns = []
    · simp [none]
    · simp [none] at possible

/-! ### Places -/

theorem places_of_results
    {tasks : List (Task β)}
    {volleyOf : Task β → Volley (Placed α)}
    {results : List (Placed α)}
    (placed : ∀ task result, (volleyOf task).resultBy answer = .ok result →
      result.place = task.place)
    (all : List.Forall₂ (fun volley result => volley.resultBy answer = .ok result)
      (tasks.map volleyOf) results) :
    results.map Placed.place = tasks.map Task.place := by
  induction tasks generalizing results with
  | nil =>
    rw [List.map_nil, List.forall₂_nil_left_iff] at all
    rw [all]
    rfl
  | cons task rest inductionHypothesis =>
    obtain ⟨result, others, here, later, rfl⟩ := List.forall₂_cons_left_iff.mp all
    rw [List.map_cons, List.map_cons, placed task result here, inductionHypothesis later]

theorem place_of_placed
    {γ : Type}
    {volley : Volley α}
    {task : Task β}
    {change : α → γ}
    {result : Placed γ}
    (found : (volley.map (fun own => task.placed (change own))).resultBy answer = .ok result) :
    result.place = task.place := by
  rw [Volley.resultBy_map] at found
  cases own : volley.resultBy answer with
  | error failure =>
    rw [own] at found
    cases found
  | ok own' =>
    rw [own] at found
    cases found
    rfl

theorem places_knownOf (repositories : List String) (prepared : List PreparedRow) :
    (knownOf repositories prepared).map Placed.place =
      ((tasksOf repositories prepared).filter (fun task => task.known?.isSome)).map Task.place := by
  unfold knownOf
  induction tasksOf repositories prepared with
  | nil => rfl
  | cons task rest inductionHypothesis =>
    cases known : task.known? with
    | none => simpa [known] using inductionHypothesis
    | some found =>
      obtain ⟨finding, _, rfl⟩ := Option.map_eq_some_iff.mp known
      simp only [List.filterMap_cons, List.filter_cons, known, Option.isSome_some, if_true,
        List.map_cons, inductionHypothesis]
      rfl

/-- No place is taken twice, be it by a lookup or by a measurement. -/
theorem nodup_places_of_measured
    {repositories : List String}
    {prepared : List PreparedRow}
    {measured : List (Placed Finding)}
    (all : List.Forall₂ (fun volley result => volley.resultBy answer = .ok result)
      (measurementsOf repositories prepared) measured) :
    ((knownOf repositories prepared ++ measured).map Placed.place).Nodup := by
  have places := places_of_results (fun _ _ found => place_of_placed found) all
  rw [List.map_append, places_knownOf, places, ← List.map_append]
  have split := List.filter_append_perm (fun task : Task PreparedRow => task.known?.isSome)
    (tasksOf repositories prepared)
  simp only [Option.not_isSome] at split
  exact (split.map Task.place).nodup_iff.mpr (nodup_places repositories prepared)

/-! ### Assemblies -/

/-- **The order of completion does not matter.**  Where the same search always gets the same answer,
every order in which the searches of an assembly are sent and answered ends, and it ends in the
batch of the assembly that works on one pair after the other, or both fail. -/
theorem completion_order_irrelevant
    (answer : Request → Outcome Response)
    (plan : Plan)
    (occasion : Occasion)
    (assignment : Assignment)
    (asked : List Request) :
    Settles (fun turns => assignment.standing answer plan occasion turns)
      ((assignment.inquiry plan occasion).run (.steady answer) asked).2 := by
  rw [Inquiry.run_steady]
  cases assignment with
  | measurements family rows =>
    simp only [Assignment.standing, Inquiry.run_steady, Assignment.inquiry, assembleRows,
      Inquiry.resultBy_bind]
    cases (prepare plan.useLookups occasion.repositories rows).resultBy answer with
    | error failure => exact settles_failure failure
    | ok prepared =>
      rw [Outcome.ok_bind]
      apply settles_fanout
      intro results completed same all
      have findings : (knownOf occasion.repositories prepared ++ completed).Perm
          (knownOf occasion.repositories prepared ++ results) := same.append_left _
      rw [batchOfFindings, batchOfFindings,
        inOrder_congr findings (nodup_places_of_measured all)]
  | checks =>
    simp only [Assignment.standing, Assignment.inquiry, assembleChecks, Inquiry.resultBy_map]
    apply settles_fanout
    intro results completed same all
    have places := places_of_results (fun _ _ found => place_of_placed found) all
    have unrepeated : (results.map Placed.place).Nodup := by
      rw [places]
      exact nodup_places _ _
    rw [batchOfChecks, batchOfChecks, inOrder_congr same unrepeated]

end RepoVitals.Assembly

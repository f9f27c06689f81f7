import RepoVitals.Proofs.Assembly.Fanout
import RepoVitals.Proofs.Assembly.Order
import RepoVitals.Proofs.Assembly.Results
import Mathlib.Algebra.Group.Action.Defs
import Mathlib.Algebra.Order.BigOperators.Group.List
import Mathlib.Algebra.Order.Ring.Nat
/-!
How much of a fan-out is under way.

Owns:
- `Fanout.Capped`: no more volleys under way than the limit, and none of them with more searches
  than a bound; one lemma for an event and one for a sequence;
- the number of searches that a pair of a family sends together;
- `InFlight`: the pairs under way and the searches in flight in a state that a family can reach, and
  what caps them.

The searches of a pair are sent together, so the cap on the pairs is no cap on the searches.
-/

namespace RepoVitals.Assembly

open Catalogue (Family Release Row)
open Search (Request Response)

variable {α β : Type}

namespace Fanout

/-! ### Volleys under way -/

/-- No more volleys are under way than the limit, and none has more than so many searches. -/
structure Capped (width limit : Nat) (fanout : Fanout α) : Prop where
  isLimit : fanout.limit = limit
  underWay : fanout.underWay.length ≤ limit
  waiting : ∀ volley ∈ fanout.waiting, volley.searches.length ≤ width
  answers : ∀ flying ∈ fanout.underWay, flying.answers.length ≤ width

variable {width limit : Nat}

theorem capped_new
    {volleys : List (Volley α)}
    (narrow : ∀ volley ∈ volleys, volley.searches.length ≤ width)
    (limit : Nat) :
    (Fanout.new limit volleys).Capped width (max 1 limit) where
  isLimit := rfl
  underWay := Nat.zero_le _
  waiting := narrow
  answers := fun _ none => absurd none List.not_mem_nil

theorem Capped.fail
    {fanout : Fanout α}
    (capped : fanout.Capped width limit)
    (failure : Failure) :
    (fanout.fail failure).Capped width limit where
  isLimit := capped.isLimit
  underWay := Nat.zero_le _
  waiting := fun _ none => absurd none List.not_mem_nil
  answers := fun _ none => absurd none List.not_mem_nil

theorem Capped.place
    {fanout : Fanout α}
    {flying : UnderWay α}
    (capped : fanout.Capped width limit)
    (room : fanout.underWay.length < limit)
    (narrow : flying.answers.length ≤ width) :
    (fanout.place flying).Capped width limit := by
  unfold Fanout.place
  split
  · refine ⟨capped.isLimit, ?_, capped.waiting, ?_⟩
    · rw [List.length_append]
      exact room
    · intro other aloft
      rcases List.mem_append.mp aloft with before | isFlying
      · exact capped.answers other before
      · rw [List.mem_singleton.mp isFlying]
        exact narrow
  · exact ⟨capped.isLimit, capped.underWay, capped.waiting, capped.answers⟩
  · exact capped.fail _

/-- What is withdrawn makes room. -/
theorem Capped.withdraw
    {fanout : Fanout α}
    {flying : UnderWay α}
    (capped : fanout.Capped width limit)
    (aloft : flying ∈ fanout.underWay) :
    (fanout.withdraw flying.position).Capped width limit ∧
      (fanout.withdraw flying.position).underWay.length < limit := by
  have fewer : (fanout.withdraw flying.position).underWay.length < fanout.underWay.length := by
    apply List.length_filter_lt_length_iff_exists.mpr
    exact ⟨flying, aloft, by simp⟩
  have room := Nat.lt_of_lt_of_le fewer capped.underWay
  refine ⟨⟨capped.isLimit, Nat.le_of_lt room, capped.waiting, ?_⟩, room⟩
  intro other isOther
  exact capped.answers other (List.mem_of_mem_filter isOther)

theorem Capped.step
    {before after : Fanout α}
    {event : FanoutEvent}
    (capped : before.Capped width limit)
    (stepped : before.step event = some after) :
    after.Capped width limit := by
  cases stepped_of_step stepped with
  | sent volley rest waits room =>
    have narrow := capped.waiting
    rw [waits] at narrow
    obtain ⟨narrowFirst, narrowRest⟩ := List.forall_mem_cons.mp narrow
    have cappedRest : Capped width limit
        { before with waiting := rest, sent := before.sent + 1 } :=
      ⟨capped.isLimit, capped.underWay, narrowRest, capped.answers⟩
    rw [capped.isLimit] at room
    apply cappedRest.place room
    rw [List.length_map]
    exact narrowFirst
  | heard position search flying response found missing =>
    have aloft := List.mem_of_find?_eq_some found
    have same : flying.position = position := by simpa using List.find?_some found
    subst same
    obtain ⟨cappedRest, room⟩ := capped.withdraw aloft
    apply cappedRest.place room
    rw [List.length_set]
    exact capped.answers flying aloft
  | refused position search flying failure found missing => exact capped.fail _

theorem Capped.exec
    {before after : Fanout α}
    {events : List FanoutEvent}
    (capped : before.Capped width limit)
    (course : before.exec events = some after) :
    after.Capped width limit := by
  induction events generalizing before with
  | nil =>
    cases course
    exact capped
  | cons event rest inductionHypothesis =>
    obtain ⟨next, stepped, course⟩ := Option.bind_eq_some_iff.mp course
    exact inductionHypothesis (capped.step stepped) course

theorem Capped.searchesInFlight_le
    {fanout : Fanout α}
    (capped : fanout.Capped width limit) :
    fanout.searchesInFlight ≤ limit * width := by
  calc fanout.searchesInFlight
      ≤ (fanout.underWay.flatMap UnderWay.answers).length := List.countP_le_length
    _ = (fanout.underWay.map (fun flying => flying.answers.length)).sum := List.length_flatMap
    _ ≤ (fanout.underWay.map (fun flying => flying.answers.length)).length • width := by
        apply List.sum_le_card_nsmul
        intro count isCount
        obtain ⟨flying, aloft, rfl⟩ := List.mem_map.mp isCount
        exact capped.answers flying aloft
    _ ≤ limit * width := by
        rw [List.length_map, smul_eq_mul]
        exact Nat.mul_le_mul_right _ capped.underWay

end Fanout

/-! ### Families -/

/-- How many searches a pair of the family sends together, at most. -/
def searchesTogether : Family → Nat
  | .releases => 6
  | .health => 2
  | _ => 1

theorem length_searches_check (filing : Filing) (task : Task Release) :
    (task.check filing).searches.length = searchesTogether .releases :=
  rfl

theorem length_searches_measurement
    {family : Family}
    {row : Row}
    (isRow : row ∈ family.rows)
    (repository : String) :
    (findingVolley row repository).searches.length ≤ searchesTogether family := by
  -- How many searches there are does not depend on the repository, so the rows can be looked
  -- through.
  have anywhere : (findingVolley row repository).searches.length =
      (findingVolley row "").searches.length := by
    unfold findingVolley
    rcases row.threshold with _ | value | ⟨index, conditions, percent⟩ <;> rfl
  have each : ∀ family ∈ [Family.general, .labels, .health, .releases, .coverage],
      ∀ row ∈ family.rows, (findingVolley row "").searches.length ≤ searchesTogether family := by
    decide
  rw [anywhere]
  apply each family _ row isRow
  cases family <;> decide

/-- Whatever a lookup says, only the rows that were asked for are prepared. -/
theorem warrants_prepare_rows
    (executor : Executor)
    (useLookups : Bool)
    (repositories : List String)
    (rows : List Row) :
    (prepare useLookups repositories rows).Warrants executor
      (fun prepared => ∀ entry ∈ prepared, entry.row ∈ rows) := by
  refine Inquiry.Warrants.forEach fun row isRow => ?_
  split
  · exact Inquiry.Warrants.pure isRow
  · rename_i lookup _
    have anyTable : (lookUp row lookup repositories).Warrants executor (fun _ => True) :=
      fun _ _ _ => trivial
    exact anyTable.bind fun table _ => Inquiry.Warrants.pure isRow

/-- The pairs under way and the searches in flight in a state that the fan-out of a family can
reach: whatever the lookups before it say, in whatever order searches are answered, and however. -/
inductive InFlight (plan : Plan) (occasion : Occasion) : Family → Nat → Nat → Prop where
  | measuring {family : Family} {executor : Executor} {asked : List Request}
      {prepared : List PreparedRow} {events : List FanoutEvent} {after : Fanout (Placed Finding)}
      (rowFamily : family ≠ .releases)
      (lookedUp : ((prepare plan.useLookups occasion.repositories family.rows).run
        executor asked).2 = .ok prepared)
      (course : (plan.measurements occasion.repositories prepared).exec events = some after) :
      InFlight plan occasion family after.underWay.length after.searchesInFlight
  | checking {events : List FanoutEvent} {after : Fanout (Placed Document)}
      (course : (plan.checks (occasion.filing .releases) occasion.repositories).exec events =
        some after) :
      InFlight plan occasion .releases after.underWay.length after.searchesInFlight

variable {plan : Plan} {occasion : Occasion} {family : Family} {pairs searches : Nat}

theorem capped_measurements
    {executor : Executor}
    {asked : List Request}
    {prepared : List PreparedRow}
    (lookedUp : ((prepare plan.useLookups occasion.repositories family.rows).run
      executor asked).2 = .ok prepared) :
    (plan.measurements occasion.repositories prepared).Capped (searchesTogether family)
      (max 1 plan.concurrency) := by
  apply Fanout.capped_new
  intro volley isVolley
  obtain ⟨task, isTask, rfl⟩ := List.mem_map.mp isVolley
  have isPrepared := (mem_tasksOf (List.mem_filter.mp isTask).1).2
  have isRow := warrants_prepare_rows executor _ _ _ asked prepared lookedUp _ isPrepared
  exact length_searches_measurement isRow task.repository

theorem capped_checks (filing : Filing) (repositories : List String) :
    (plan.checks filing repositories).Capped (searchesTogether .releases)
      (max 1 plan.concurrency) := by
  apply Fanout.capped_new
  intro volley isVolley
  obtain ⟨task, isTask, rfl⟩ := List.mem_map.mp isVolley
  exact Nat.le_of_eq (length_searches_check filing task)

/-- **Pairs are capped.**  No more pairs are under way than the plan allows, so no more searches are
in flight than that many pairs send together. -/
theorem pairs_in_flight_capped
    (inFlight : InFlight plan occasion family pairs searches) :
    pairs ≤ max 1 plan.concurrency ∧
      searches ≤ max 1 plan.concurrency * searchesTogether family := by
  cases inFlight with
  | measuring rowFamily lookedUp course =>
    have capped := (capped_measurements lookedUp).exec course
    exact ⟨capped.underWay, capped.searchesInFlight_le⟩
  | checking course =>
    have capped := (capped_checks _ _).exec course
    exact ⟨capped.underWay, capped.searchesInFlight_le⟩

/-- Two release checks at a time reach their cap. -/
theorem pairs_in_flight_capped_for_two_checks :
    let plan : Plan := ⟨true, [⟨"3.0.0", "open"⟩], 2⟩
    let occasion : Occasion := ⟨["a", "b", "c"], ⟨2024, 6, 1, by decide⟩, ⟨1717200000, 0⟩⟩
    InFlight plan occasion .releases 2 12 ∧
      2 ≤ max 1 plan.concurrency ∧ 12 ≤ max 1 plan.concurrency * searchesTogether .releases := by
  intro plan occasion
  have course : (plan.checks (occasion.filing .releases) occasion.repositories).exec
      [.send, .send] = some _ := rfl
  have inFlight : InFlight plan occasion .releases 2 12 := .checking course
  exact ⟨inFlight, pairs_in_flight_capped inFlight⟩

/-- One release check at a time is six searches at a time. -/
theorem searches_in_flight_exceed_concurrency :
    let plan : Plan := ⟨true, [⟨"3.0.0", "open"⟩], 1⟩
    let occasion : Occasion := ⟨["alpha"], ⟨2024, 6, 1, by decide⟩, ⟨1717200000, 0⟩⟩
    InFlight plan occasion .releases 1 6 ∧ ¬6 ≤ max 1 plan.concurrency := by
  intro plan occasion
  have course : (plan.checks (occasion.filing .releases) occasion.repositories).exec [.send] =
      some _ := rfl
  exact ⟨.checking course, by decide⟩

end RepoVitals.Assembly

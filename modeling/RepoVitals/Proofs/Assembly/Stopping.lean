import RepoVitals.Assembly.Prompt
import RepoVitals.Proofs.Assembly.Itinerary
import RepoVitals.Proofs.Assembly.Order
/-!
Assemblies that stop at the first failure.

Owns:
- the legs of lookups, of rows and of releases, said search by search, and the itinerary of an
  assignment;
- the assembly where no answer has to be waited for, which is the one that works on one pair after
  the other, however many pairs may have a place;
- `searches_stop_at_first_failure`: it asks the searches of its itinerary, all of them if it
  succeeds, and otherwise those up to the first one that fails or the first leg that cannot be read.
-/

namespace RepoVitals.Assembly

open Catalogue (Check Family Lookup Release Row Threshold)
open Search (Request Response)

variable {α β : Type} {executor : Executor}

/-! ### Itineraries -/

/-- The lookup of a row that is used, if the row has one. -/
def lookupIfUsed (useLookups : Bool) (row : Row) : Option Lookup :=
  if useLookups then row.lookup? else none

/-- One search for all repositories, from whose answer the labels of each are read. -/
def lookupLeg (repositories : List String) (row : Row) (lookup : Lookup) : Leg :=
  ⟨[lookup.request row.index repositories], fun answer =>
    (answer.nestedTerms Catalogue.repositoriesName Catalogue.innerLabelsName).map fun _ => ()⟩

/-- The search of a row, and behind it the second search of its threshold if that is derived. -/
def rowLeg (repository : String) (row : Row) : Leg :=
  match row.threshold.bind (Threshold.search? repository) with
  | none => ⟨[row.request repository], fun answer => (row.extract answer).map fun _ => ()⟩
  | some (second, derive) =>
    ⟨[row.request repository, second], fun answer secondAnswer => do
      let _ ← row.extract answer
      (derive secondAnswer).map fun _ => ()⟩

/-- The six searches of a release, field by field. -/
def releaseLeg (repository : String) (release : Release) : Leg :=
  let searches := release.searches repository
  ⟨[searches.issuesOpen, searches.autocutIssuesOpen, searches.issuesClosed, searches.pullsOpen,
      searches.pullsClosed, searches.releaseIssue],
    fun issuesOpen autocutIssuesOpen issuesClosed pullsOpen pullsClosed releaseIssue => do
      let _ ← issuesOpen.matchCount
      let _ ← autocutIssuesOpen.matchCount
      let _ ← issuesClosed.matchCount
      let _ ← pullsOpen.matchCount
      let _ ← pullsClosed.matchCount
      (Catalogue.trackingIssueOf releaseIssue).map fun _ => ()⟩

/-- The legs of an assignment: lookups in the order of rows, then pairs in the order of repositories
and of rows or releases. -/
def Assignment.itinerary (plan : Plan) (repositories : List String) : Assignment → List Leg
  | .measurements _ rows =>
    rows.flatMap (fun row =>
      ((lookupIfUsed plan.useLookups row).map (lookupLeg repositories row)).toList) ++
    repositories.flatMap (fun repository =>
      (rows.filter fun row => (lookupIfUsed plan.useLookups row).isNone).map (rowLeg repository))
  | .checks =>
    repositories.flatMap (fun repository => plan.releases.map (releaseLeg repository))

/-! ### Legs of volleys -/

theorem map_forget (change : α → β) (outcome : Outcome α) :
    (outcome.map change).map (fun _ => ()) = outcome.map fun _ => () := by
  cases outcome <;> rfl

theorem ofVolley_finding (row : Row) (repository : String) :
    Leg.ofVolley (findingVolley row repository) = rowLeg repository row := by
  unfold findingVolley rowLeg
  generalize row.threshold = threshold
  rcases threshold with _ | value | ⟨index, conditions, percent⟩
  · exact congrArg (Leg.mk _) (funext fun answer => map_forget _ _)
  · exact congrArg (Leg.mk _) (funext fun answer => map_forget _ _)
  · refine congrArg (Leg.mk _) (funext fun answer => funext fun secondAnswer => ?_)
    show Except.map _ (row.extract answer >>= _) = (row.extract answer >>= _)
    cases row.extract answer with
    | error failure => rfl
    | ok extracted => exact map_forget _ (Catalogue.shareOf percent secondAnswer)

/-- Reading a check fails exactly like reading one answer after the other. -/
theorem map_forget_readinessOf (answers : Check Response Response) :
    (Catalogue.readinessOf answers).map (fun _ => ()) = (do
      let _ ← answers.issuesOpen.matchCount
      let _ ← answers.autocutIssuesOpen.matchCount
      let _ ← answers.issuesClosed.matchCount
      let _ ← answers.pullsOpen.matchCount
      let _ ← answers.pullsClosed.matchCount
      (Catalogue.trackingIssueOf answers.releaseIssue).map fun _ => ()) := by
  unfold Catalogue.readinessOf
  cases answers.issuesOpen.matchCount
  case error => rfl
  cases answers.autocutIssuesOpen.matchCount
  case error => rfl
  cases answers.issuesClosed.matchCount
  case error => rfl
  cases answers.pullsOpen.matchCount
  case error => rfl
  cases answers.pullsClosed.matchCount
  case error => rfl
  exact map_forget _ (Catalogue.trackingIssueOf answers.releaseIssue)

theorem ofVolley_readiness (release : Release) (repository : String) :
    Leg.ofVolley (readinessVolley release repository) = releaseLeg repository release :=
  congrArg (Leg.mk _) (funext fun _ => funext fun _ => funext fun _ => funext fun _ =>
    funext fun _ => funext fun _ => map_forget_readinessOf _)

/-! ### Lookups -/

theorem travels_lookUp (row : Row) (lookup : Lookup) (repositories : List String) :
    (lookUp row lookup repositories).Travels executor [lookupLeg repositories row lookup]
      (fun _ => True) := by
  intro past
  rw [lookUp, Inquiry.run_bind, Inquiry.run_within, Inquiry.run_search]
  cases here : executor past (lookup.request row.index repositories) with
  | error failure =>
    have stops : Stops executor past [lookupLeg repositories row lookup]
        ([] ++ [lookup.request row.index repositories]) failure :=
      .unanswered rfl .nil (by rwa [List.append_nil])
    exact .inr ⟨_, _, failure, rfl, stops, .within (.refl failure) _⟩
  | ok answer =>
    show (∃ result, (Inquiry.ofOutcome _).run executor _ = _ ∧ _) ∨
      ∃ asked failure origin, (Inquiry.ofOutcome _).run executor _ = _ ∧ _
    have comes : (lookupLeg repositories row lookup).Comes executor past
        ((answer.nestedTerms Catalogue.repositoriesName Catalogue.innerLabelsName).map
          fun _ => ()) :=
      ⟨[answer], .cons here .nil, rfl⟩
    cases read : answer.nestedTerms Catalogue.repositoriesName Catalogue.innerLabelsName with
    | ok table =>
      rw [read] at comes
      exact .inl ⟨table, rfl, .cons comes .nil, trivial⟩
    | error failure =>
      rw [read] at comes
      exact .inr ⟨[_], failure, failure, rfl, .unreadable comes, .refl failure⟩

/-- The row has been prepared: it has a table exactly if it has a lookup that is used. -/
structure PreparedFrom (useLookups : Bool) (row : Row) (prepared : PreparedRow) : Prop where
  row_eq : prepared.row = row
  table_isNone : prepared.table.isNone = (lookupIfUsed useLookups row).isNone

theorem travels_prepare (useLookups : Bool) (repositories : List String) (rows : List Row) :
    (prepare useLookups repositories rows).Travels executor
      (rows.flatMap fun row =>
        ((lookupIfUsed useLookups row).map (lookupLeg repositories row)).toList)
      (List.Forall₂ (PreparedFrom useLookups) rows) := by
  refine Inquiry.Travels.forEach fun row _ => ?_
  unfold lookupIfUsed
  cases used : if useLookups then row.lookup? else none with
  | none => exact Inquiry.Travels.pure ⟨rfl, by rw [lookupIfUsed, used]; rfl⟩
  | some lookup =>
    refine (travels_lookUp row lookup repositories).map fun table _ => ⟨rfl, ?_⟩
    rw [lookupIfUsed, used]
    rfl

/-! ### Pairs -/

theorem map_filter_tasksOf
    (repositories : List String)
    (subjects : List α)
    (concerns : α → Bool)
    (about : String → α → β) :
    ((tasksOf repositories subjects).filter (fun task => concerns task.subject)).map
        (fun task => about task.repository task.subject) =
      repositories.flatMap fun repository => (subjects.filter concerns).map (about repository) := by
  rw [tasksOf, List.filter_flatMap, List.map_flatMap]
  conv_rhs => rw [← List.zipIdx_map_fst 0 repositories, List.flatMap_map]
  refine List.flatMap_congr fun place _ => ?_
  conv_rhs => rw [← List.zipIdx_map_fst 0 subjects]
  rw [List.filter_map, List.filter_map, List.map_map, List.map_map]
  rfl

theorem legs_of_checksOf (filing : Filing) (repositories : List String) (releases : List Release) :
    (checksOf filing repositories releases).map Leg.ofVolley =
      repositories.flatMap fun repository => releases.map (releaseLeg repository) := by
  have all := map_filter_tasksOf repositories releases (fun _ => true) releaseLeg
  rw [List.filter_true, List.filter_true] at all
  rw [checksOf, List.map_map, ← all]
  refine List.map_congr_left fun task _ => ?_
  rw [Function.comp_apply, Task.check, Leg.ofVolley_map, ofVolley_readiness]

/-- What remains of prepared rows are the rows without a lookup that is used. -/
theorem map_row_filter
    {useLookups : Bool}
    {rows : List Row}
    {prepared : List PreparedRow}
    (isPrepared : List.Forall₂ (PreparedFrom useLookups) rows prepared) :
    (prepared.filter fun row => row.table.isNone).map PreparedRow.row =
      rows.filter fun row => (lookupIfUsed useLookups row).isNone := by
  induction isPrepared with
  | nil => rfl
  | cons here later inductionHypothesis =>
    rw [List.filter_cons, List.filter_cons, here.table_isNone]
    split
    · rw [List.map_cons, inductionHypothesis, here.row_eq]
    · exact inductionHypothesis

theorem legs_of_measurementsOf
    {useLookups : Bool}
    {rows : List Row}
    {prepared : List PreparedRow}
    (repositories : List String)
    (isPrepared : List.Forall₂ (PreparedFrom useLookups) rows prepared) :
    (measurementsOf repositories prepared).map Leg.ofVolley =
      repositories.flatMap fun repository =>
        (rows.filter fun row => (lookupIfUsed useLookups row).isNone).map (rowLeg repository) := by
  rw [← map_row_filter isPrepared]
  simp only [List.map_map]
  rw [← map_filter_tasksOf repositories prepared _ fun repository row =>
    (rowLeg repository ∘ PreparedRow.row) row, measurementsOf, List.map_map]
  have concerns (task : Task PreparedRow) : task.known?.isNone = task.subject.table.isNone := by
    rw [Task.known?, PreparedRow.known?, Option.isNone_map, Option.isNone_map]
  simp only [concerns]
  refine List.map_congr_left fun task _ => ?_
  rw [Function.comp_apply, Task.measurement, Leg.ofVolley_map, ofVolley_finding]
  rfl

theorem travels_inquireAll (volleys : List (Volley α)) :
    (Volley.inquireAll volleys).Travels executor (volleys.map Leg.ofVolley) (fun _ => True) := by
  rw [List.map_eq_flatMap]
  exact (Inquiry.Travels.forEach fun volley _ => volley.travels).imp fun _ _ => trivial

/-! ### Assignments -/

/-- An assembly that works on one pair after the other goes along its itinerary. -/
theorem Assignment.travels (plan : Plan) (occasion : Occasion) (assignment : Assignment) :
    (assignment.inquiry plan occasion).Travels executor
      (assignment.itinerary plan occasion.repositories) (fun _ => True) := by
  cases assignment with
  | measurements family rows =>
    refine (travels_prepare plan.useLookups occasion.repositories rows).bind
      fun prepared isPrepared => ?_
    rw [← legs_of_measurementsOf occasion.repositories isPrepared]
    exact (travels_inquireAll _).map fun _ _ => trivial
  | checks =>
    show Inquiry.Travels _ (occasion.repositories.flatMap fun repository =>
      plan.releases.map (releaseLeg repository)) _ _
    rw [← legs_of_checksOf (occasion.filing .releases)]
    exact (travels_inquireAll _).map fun _ _ => trivial

/-! ### Places -/

/-- Where answers come at once, it does not matter how many volleys have a place. -/
theorem Volley.inquirePromptly_eq
    {limit : Nat}
    (positive : 0 < limit)
    (waiting placed : List (Volley α)) :
    Volley.inquirePromptly limit waiting placed = Volley.inquireAll (placed ++ waiting) := by
  fun_induction Volley.inquirePromptly limit waiting placed with
  | case1 waiting placed free filled =>
    obtain ⟨isEmpty, noneTaken⟩ := List.append_eq_nil_iff.mp filled
    have isFree : free = limit := by simp only [free, isEmpty, List.length_nil, Nat.sub_zero]
    rw [isFree, List.take_eq_nil_iff] at noneTaken
    rw [isEmpty, noneTaken.resolve_left (by omega)]
    rfl
  | case2 waiting placed free volley others filled inductionHypothesis =>
    have inOrder : placed ++ waiting = volley :: (others ++ waiting.drop free) := by
      rw [← List.cons_append, ← filled, List.append_assoc, List.take_append_drop]
    rw [inOrder, inductionHypothesis]
    rfl

theorem Assignment.inquirePromptly_eq
    (plan : Plan)
    (occasion : Occasion)
    (assignment : Assignment) :
    assignment.inquirePromptly plan occasion = assignment.inquiry plan occasion := by
  have positive : 0 < max 1 plan.concurrency := by omega
  cases assignment with
  | measurements family rows =>
    simp only [inquirePromptly, Volley.inquirePromptly_eq positive, List.nil_append]
    rfl
  | checks =>
    simp only [inquirePromptly, Volley.inquirePromptly_eq positive, List.nil_append]
    rfl

/-! ### Assemblies -/

/-- The assembly of a family whose searches are answered at once does not depend on how many pairs
have a place.  It succeeds exactly if its whole itinerary is passed, and then it has asked every
search of it.  Otherwise it has asked the searches up to where it had to stop, and its failure still
tells what was wrong there. -/
theorem searches_stop_at_first_failure
    (executor : Executor)
    (plan : Plan)
    (family : Family)
    (occasion : Occasion)
    (past : List Request) :
    let assignment := Assignment.ofFamily family
    let legs := assignment.itinerary plan occasion.repositories
    let course := (assignment.inquirePromptly plan occasion).run executor past
    assignment.inquirePromptly plan occasion = assemble plan family occasion ∧
    ((∃ batch, course.2 = .ok batch) ↔ Passed executor past legs) ∧
    match course with
    | (asked, .ok _) => asked = past ++ searchesOf legs
    | (asked, .error failure) => ∃ since origin, asked = past ++ since ∧
        since <+: searchesOf legs ∧ Stops executor past legs since origin ∧
          Recounts failure origin := by
  intro assignment legs course
  have sequential := assignment.inquirePromptly_eq plan occasion
  refine ⟨sequential.trans (Assignment.inquiry_ofFamily plan family occasion), ?_⟩
  have travels :
      (assignment.inquirePromptly plan occasion).Travels executor legs fun _ => True := by
    rw [sequential]
    exact assignment.travels plan occasion
  obtain ⟨batch, isCourse, passed, -⟩ | ⟨since, failure, origin, isCourse, stops, recounts⟩ :=
    travels past
  · change course = _ at isCourse
    rw [isCourse]
    exact ⟨⟨fun _ => passed, fun _ => ⟨batch, rfl⟩⟩, rfl⟩
  · change course = _ at isCourse
    rw [isCourse]
    refine ⟨⟨nofun, fun passed => absurd passed stops.not_passed⟩, ?_⟩
    exact ⟨since, origin, rfl, stops.isPrefix, stops, recounts⟩

end RepoVitals.Assembly

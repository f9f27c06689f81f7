import RepoVitals.Proofs.Assembly.Stopping
import RepoVitals.Proofs.Search.Buckets
/-!
Concerns: what the searches of an assembly are about, and what its failures say of that.

Owns:
- concerns, which are the lookups, measurements and checks of an assembly, with the names that
  belong to them;
- `Concern.Reports`: trouble is told with the names of its concern, unless that is a lookup whose
  answer cannot be read;
- `Inquiry.Blames`: a run that fails has passed the concerns before one, and reports the trouble
  with that one; one rule for each way of building an inquiry;
- `Assignment.blames`: an assembly that works on one pair after the other fails so.

Which legs are passed is told by the itinerary of an inquiry; here its failures are followed.
-/

namespace RepoVitals

/-- A text occurs in one of the messages of a failure. -/
def Failure.Mentions (failure : Failure) (text : String) : Prop :=
  ∃ message ∈ failure.chain, text.toList <:+: message.toList

theorem isInfix_append (text more : String) : text.toList <:+: (text ++ more).toList := by
  rw [String.toList_append]
  exact List.prefix_append _ _ |>.isInfix

theorem isInfix_between (before text after : String) :
    text.toList <:+: (before ++ text ++ after).toList := by
  rw [String.toList_append, String.toList_append]
  exact List.infix_append _ _ _

namespace Assembly

open Catalogue (Family Lookup Release Row)
open Search (Request Response)

/-! ### Concerns -/

/-- What a leg of an assembly is about. -/
inductive Concern where
  | lookingUp (row : Row) (lookup : Lookup)
  | measuring (row : Row) (repository : String)
  | checking (release : Release) (repository : String)

/-- Searches that are read together fail in two ways: one of them fails, or all are answered and the
answers cannot be read. -/
inductive Trouble where
  | unanswered
  | unreadable

namespace Concern

/-- The searches of the concern, and how their answers are read. -/
def leg (repositories : List String) : Concern → Leg
  | .lookingUp row lookup => lookupLeg repositories row lookup
  | .measuring row repository => rowLeg repository row
  | .checking release repository => releaseLeg repository release

/-- The row or the version, and the repository if there is only one. -/
def names : Concern → List String
  | .lookingUp row _ => [row.name]
  | .measuring row repository => [row.name, repository]
  | .checking release repository => [release.version, repository]

/-- The circumstance of the concern. -/
def circumstance : Concern → Circumstance
  | .lookingUp row _ => .lookingUp row.name
  | .measuring row repository => .measuring row.name repository
  | .checking release repository => .checkingRelease release.version repository

/-- All trouble is told with its concern but that with the answer to a lookup. -/
def IsTold : Concern → Trouble → Prop
  | .lookingUp _ _, .unreadable => False
  | _, _ => True

/-- How the failure of an assembly reports trouble with the concern; `origin` is what went wrong in
the first place. -/
structure Reports (concern : Concern) (trouble : Trouble) (origin failure : Failure) : Prop where
  told : concern.IsTold trouble → failure = origin.within concern.circumstance ∧
    ∀ name ∈ concern.names, failure.Mentions name
  bare : ¬concern.IsTold trouble → failure = origin ∧
    ∃ malformation, origin = .ofCause (.malformedResponse malformation)

theorem mentions_within (concern : Concern) (origin : Failure) :
    ∀ name ∈ concern.names, (origin.within concern.circumstance).Mentions name := by
  intro name isName
  refine ⟨concern.circumstance.text, List.mem_append_left _ List.mem_cons_self, ?_⟩
  cases concern with
  | lookingUp row lookup =>
    obtain rfl := List.mem_singleton.mp isName
    exact isInfix_between _ _ _
  | measuring row repository =>
    rcases List.mem_pair.mp isName with rfl | rfl
    · exact isInfix_between _ _ _ |>.trans (isInfix_append _ _) |>.trans (isInfix_append _ _)
    · exact isInfix_between _ _ _
  | checking release repository =>
    rcases List.mem_pair.mp isName with rfl | rfl
    · exact isInfix_between _ _ _ |>.trans (isInfix_append _ _) |>.trans (isInfix_append _ _)
    · exact isInfix_between _ _ _

theorem reports_within {concern : Concern} {trouble : Trouble} (isTold : concern.IsTold trouble)
    (origin : Failure) :
    concern.Reports trouble origin (origin.within concern.circumstance) where
  told := fun _ => ⟨rfl, concern.mentions_within origin⟩
  bare := fun isUntold => absurd isTold isUntold

end Concern

/-- The legs of concerns. -/
def legsOf (repositories : List String) (concerns : List Concern) : List Leg :=
  concerns.map (Concern.leg repositories)

namespace Assignment

/-- The lookups of an assignment that are used. -/
def lookups (plan : Plan) : Assignment → List Concern
  | .measurements _ rows =>
    rows.flatMap (fun row => ((lookupIfUsed plan.useLookups row).map (.lookingUp row)).toList)
  | .checks => []

/-- The pairs of an assignment that no lookup answers. -/
def pairs (plan : Plan) (repositories : List String) : Assignment → List Concern
  | .measurements _ rows =>
    repositories.flatMap (fun repository =>
      (rows.filter fun row => (lookupIfUsed plan.useLookups row).isNone).map
        (.measuring · repository))
  | .checks => repositories.flatMap (fun repository => plan.releases.map (.checking · repository))

/-- The concerns of an assignment, in order. -/
def concerns (plan : Plan) (repositories : List String) (assignment : Assignment) : List Concern :=
  assignment.lookups plan ++ assignment.pairs plan repositories

theorem legsOf_lookups (plan : Plan) (repositories : List String) (family : Family)
    (rows : List Row) :
    legsOf repositories ((measurements family rows).lookups plan) =
      rows.flatMap fun row =>
        ((lookupIfUsed plan.useLookups row).map (lookupLeg repositories row)).toList := by
  rw [legsOf, lookups, List.map_flatMap]
  refine List.flatMap_congr fun row _ => ?_
  cases lookupIfUsed plan.useLookups row <;> rfl

end Assignment

/-! ### One search after the other -/

/-- How a run that asks the searches of a leg after those in `past` fails, and the searches of the
leg that it has asked by then. -/
inductive Leg.Fails (executor : Executor) (past : List Request) (leg : Leg) :
    (asked : List Request) → Trouble → Failure → Prop
  | unanswered {heard unasked : List Request} {request : Request} {responses : List Response}
      {failure : Failure}
      (searches : leg.searches = heard ++ request :: unasked)
      (answered : Answered executor past heard responses)
      (fails : executor (past ++ heard) request = .error failure) :
      leg.Fails executor past (heard ++ [request]) .unanswered failure
  | unreadable {failure : Failure} (here : leg.Comes executor past (.error failure)) :
      leg.Fails executor past leg.searches .unreadable failure

/-- A run that has asked these searches fails by one of the concerns: those before it are passed,
and the failure reports the trouble with it. -/
def FailsBy (executor : Executor) (repositories : List String) (past : List Request)
    (concerns : List Concern) (asked : List Request) (failure : Failure) : Prop :=
  ∃ before concern after since trouble origin, concerns = before ++ concern :: after ∧
    Passed executor past (legsOf repositories before) ∧
    asked = past ++ searchesOf (legsOf repositories before) ++ since ∧
    (concern.leg repositories).Fails executor (past ++ searchesOf (legsOf repositories before))
      since trouble origin ∧
    concern.Reports trouble origin failure

variable {α β : Type} {executor : Executor} {repositories : List String} {past asked : List Request}
  {concerns concerns' : List Concern} {failure : Failure}

theorem FailsBy.append
    (fails : FailsBy executor repositories past concerns asked failure)
    (more : List Concern) :
    FailsBy executor repositories past (concerns ++ more) asked failure := by
  obtain ⟨before, concern, after, since, trouble, origin, rfl, found⟩ := fails
  refine ⟨before, concern, after ++ more, since, trouble, origin, ?_, found⟩
  rw [List.append_assoc, List.cons_append]

theorem FailsBy.behind
    (passed : Passed executor past (legsOf repositories concerns))
    (fails : FailsBy executor repositories (past ++ searchesOf (legsOf repositories concerns))
      concerns' asked failure) :
    FailsBy executor repositories past (concerns ++ concerns') asked failure := by
  obtain ⟨before, concern, after, since, trouble, origin, rfl, passed', isAsked, found⟩ := fails
  have both : past ++ searchesOf (legsOf repositories (concerns ++ before)) =
      past ++ searchesOf (legsOf repositories concerns) ++
        searchesOf (legsOf repositories before) := by
    rw [legsOf, List.map_append, searchesOf_append, List.append_assoc]
    rfl
  refine ⟨concerns ++ before, concern, after, since, trouble, origin, ?_, ?_, ?_, ?_⟩
  · rw [List.append_assoc]
  · rw [legsOf, List.map_append]
    exact passed.append passed'
  · rw [both, isAsked]
  · rwa [both]

namespace Inquiry

/-- Every run of the inquiry that fails does so by one of the concerns. -/
def Blames (executor : Executor) (repositories : List String) (concerns : List Concern)
    (inquiry : Inquiry α) : Prop :=
  ∀ past asked failure, inquiry.run executor past = (asked, .error failure) →
    FailsBy executor repositories past concerns asked failure

namespace Blames

theorem pure (result : α) :
    (Pure.pure result : Inquiry α).Blames executor repositories [] := by
  intro past asked failure fails
  cases fails

theorem bind
    {inquiry : Inquiry α}
    {next : α → Inquiry β}
    {between : α → Prop}
    (travels : inquiry.Travels executor (legsOf repositories concerns) between)
    (blames : inquiry.Blames executor repositories concerns)
    (later : ∀ result, between result → (next result).Blames executor repositories concerns') :
    (inquiry >>= next).Blames executor repositories (concerns ++ concerns') := by
  intro past asked failure fails
  rw [run_bind] at fails
  obtain ⟨result, course, passed, holds⟩ | ⟨since, failure', origin, course, -, -⟩ := travels past
  · rw [course] at fails
    exact (later result holds _ _ _ fails).behind passed
  · rw [course] at fails
    cases fails
    exact (blames _ _ _ course).append concerns'

theorem map
    {inquiry : Inquiry α}
    {change : α → β}
    {between : α → Prop}
    (travels : inquiry.Travels executor (legsOf repositories concerns) between)
    (blames : inquiry.Blames executor repositories concerns) :
    (inquiry >>= fun result => Pure.pure (change result)).Blames executor repositories
      concerns := by
  have both := blames.bind travels fun result _ => Blames.pure (change result)
  rwa [List.append_nil] at both

/-- One inquiry after the other fails by one of the concerns of one of them. -/
theorem forEach
    {items : List β}
    {inquiryOf : β → Inquiry α}
    {parts : List (List Concern)}
    (each : List.Forall₂ (fun concerns item =>
      (inquiryOf item).Travels executor (legsOf repositories concerns) (fun _ => True) ∧
        (inquiryOf item).Blames executor repositories concerns) parts items) :
    (Inquiry.forEach items inquiryOf).Travels executor (legsOf repositories parts.flatten)
        (fun _ => True) ∧
      (Inquiry.forEach items inquiryOf).Blames executor repositories parts.flatten := by
  induction each with
  | nil => exact ⟨Travels.pure trivial, Blames.pure []⟩
  | cons here _ inductionHypothesis =>
    obtain ⟨travelsHere, blamesHere⟩ := here
    obtain ⟨travelsLater, blamesLater⟩ := inductionHypothesis
    rw [List.flatten_cons]
    refine ⟨?_, .bind travelsHere blamesHere fun result _ => blamesLater.map travelsLater⟩
    rw [legsOf, List.map_append]
    exact travelsHere.bind fun result _ => travelsLater.map fun _ _ => trivial

end Blames

end Inquiry

theorem FailsBy.here {concern : Concern} {since : List Request} {trouble : Trouble}
    {origin : Failure} (fails : (concern.leg repositories).Fails executor past since trouble origin)
    (reports : concern.Reports trouble origin failure) :
    FailsBy executor repositories past [concern] (past ++ since) failure := by
  refine ⟨[], concern, [], since, trouble, origin, rfl, .nil, ?_, ?_, reports⟩
  · simp [legsOf, searchesOf]
  · simpa [legsOf, searchesOf] using fails

/-! ### Lookups -/

theorem blames_lookUp (row : Row) (lookup : Lookup) :
    (lookUp row lookup repositories).Blames executor repositories [.lookingUp row lookup] := by
  intro past asked failure fails
  rw [lookUp, Inquiry.run_bind, Inquiry.run_within, Inquiry.run_search] at fails
  cases here : executor past (lookup.request row.index repositories) with
  | error origin =>
    rw [here] at fails
    cases fails
    have unanswered : (lookupLeg repositories row lookup).Fails executor past
        ([] ++ [lookup.request row.index repositories]) .unanswered origin :=
      .unanswered rfl .nil (by rwa [List.append_nil])
    have isTold : (Concern.lookingUp row lookup).IsTold .unanswered := trivial
    exact .here unanswered (Concern.reports_within isTold origin)
  | ok answer =>
    rw [here] at fails
    change (Inquiry.ofOutcome (answer.nestedTerms Catalogue.repositoriesName
      Catalogue.innerLabelsName)).run executor _ = _ at fails
    cases read : answer.nestedTerms Catalogue.repositoriesName Catalogue.innerLabelsName with
    | ok table =>
      rw [read] at fails
      cases fails
    | error origin =>
      rw [read] at fails
      cases fails
      have unreadable :
          (lookupLeg repositories row lookup).Comes executor past (.error failure) := by
        refine ⟨[answer], .cons here .nil, ?_⟩
        change some (Except.map _ _) = _
        rw [read]
        rfl
      have onlyMalformed := Search.Response.onlyMalformed_nestedTerms _ _ failure read
      exact .here (.unreadable unreadable)
        ⟨fun isTold => isTold.elim, fun _ => ⟨rfl, onlyMalformed⟩⟩

theorem blames_prepare (useLookups : Bool) (rows : List Row) :
    (prepare useLookups repositories rows).Blames executor repositories
      (rows.flatMap fun row => ((lookupIfUsed useLookups row).map (.lookingUp row)).toList) := by
  rw [List.flatMap_def]
  refine (Inquiry.Blames.forEach ?_).2
  rw [List.forall₂_map_left_iff, List.forall₂_same]
  intro row _
  unfold lookupIfUsed
  cases used : if useLookups then row.lookup? else none with
  | none => exact ⟨.pure trivial, .pure _⟩
  | some lookup =>
    have travels : (lookUp row lookup repositories).Travels executor
        [lookupLeg repositories row lookup] (fun _ => True) :=
      travels_lookUp row lookup repositories
    exact ⟨travels.map fun _ _ => trivial, (blames_lookUp row lookup).map travels⟩

/-! ### Pairs -/

/-- The volley asks the searches of the concern and tells its failures so. -/
structure Concern.IsOf (concern : Concern) (repositories : List String) (volley : Volley α) :
    Prop where
  leg : Leg.ofVolley volley = concern.leg repositories
  circumstance : volley.circumstance = concern.circumstance
  isTold : ∀ trouble, concern.IsTold trouble

theorem blames_volley {concern : Concern} {volley : Volley α}
    (isOf : concern.IsOf repositories volley) :
    volley.inquiry.Blames executor repositories [concern] := by
  intro past asked failure fails
  rw [Volley.inquiry, Inquiry.run_within] at fails
  obtain ⟨responses, outcome, answered, read, course⟩ |
      ⟨heard, request, unasked, responses, origin, searches, answered, refused, course⟩ :=
    Inquiry.run_ofSearches volley.searches volley.reading past
  · rw [course] at fails
    cases outcome with
    | ok result => cases fails
    | error origin =>
      cases fails
      have unreadable : (Leg.ofVolley volley).Fails executor past volley.searches .unreadable
          origin := by
        refine .unreadable ⟨responses, answered, ?_⟩
        rw [Leg.ofVolley, Inquiry.outcome?_map, read]
        rfl
      rw [isOf.leg] at unreadable
      rw [isOf.circumstance]
      exact .here unreadable (Concern.reports_within (isOf.isTold _) origin)
  · rw [course] at fails
    cases fails
    have unanswered : (Leg.ofVolley volley).Fails executor past (heard ++ [request]) .unanswered
        origin := .unanswered searches answered refused
    rw [isOf.leg] at unanswered
    rw [isOf.circumstance]
    exact .here unanswered (Concern.reports_within (isOf.isTold _) origin)

theorem blames_inquireAll {volleys : List (Volley α)}
    (areOf : List.Forall₂ (fun concern volley => concern.IsOf repositories volley) concerns
      volleys) :
    (Volley.inquireAll volleys).Travels executor (legsOf repositories concerns) (fun _ => True) ∧
      (Volley.inquireAll volleys).Blames executor repositories concerns := by
  rw [← List.flatMap_singleton' concerns, List.flatMap_def]
  refine Inquiry.Blames.forEach ?_
  rw [List.forall₂_map_left_iff]
  refine areOf.imp fun concern volley isOf => ⟨?_, blames_volley isOf⟩
  rw [legsOf, List.map_singleton, ← isOf.leg]
  exact volley.travels

theorem isOf_measurement (task : Task PreparedRow) :
    (Concern.measuring task.subject.row task.repository).IsOf repositories task.measurement where
  leg := by
    rw [Task.measurement, Leg.ofVolley_map, ofVolley_finding]
    rfl
  circumstance := by
    unfold Task.measurement findingVolley
    rcases task.subject.row.threshold with _ | value | ⟨index, conditions, percent⟩ <;> rfl
  isTold := fun _ => trivial

theorem isOf_check (filing : Filing) (task : Task Release) :
    (Concern.checking task.subject task.repository).IsOf repositories (task.check filing) where
  leg := by
    rw [Task.check, Leg.ofVolley_map, ofVolley_readiness]
    rfl
  circumstance := rfl
  isTold := fun _ => trivial

theorem areOf_checks (plan : Plan) (filing : Filing) (repositories : List String) :
    List.Forall₂ (fun concern volley => concern.IsOf repositories volley)
      (Assignment.checks.pairs plan repositories)
      (checksOf filing repositories plan.releases) := by
  have all := map_filter_tasksOf repositories plan.releases (fun _ => true)
    fun repository release =>
    Concern.checking release repository
  rw [List.filter_true, List.filter_true] at all
  rw [Assignment.pairs, ← all, checksOf, List.forall₂_map_left_iff, List.forall₂_map_right_iff,
    List.forall₂_same]
  exact fun task _ => isOf_check filing task

theorem areOf_measurements
    {plan : Plan}
    {family : Family}
    {rows : List Row}
    {prepared : List PreparedRow}
    (isPrepared : List.Forall₂ (PreparedFrom plan.useLookups) rows prepared) :
    List.Forall₂ (fun concern volley => concern.IsOf repositories volley)
      ((Assignment.measurements family rows).pairs plan repositories)
      (measurementsOf repositories prepared) := by
  have isOpen (task : Task PreparedRow) : task.known?.isNone = task.subject.table.isNone := by
    rw [Task.known?, PreparedRow.known?, Option.isNone_map, Option.isNone_map]
  rw [Assignment.pairs, ← map_row_filter isPrepared]
  simp only [List.map_map]
  rw [← map_filter_tasksOf repositories prepared _ fun repository row =>
    ((Concern.measuring · repository) ∘ PreparedRow.row) row, measurementsOf,
    List.forall₂_map_left_iff, List.forall₂_map_right_iff]
  simp only [isOpen]
  exact List.forall₂_same.mpr fun task _ => isOf_measurement task

/-- Every assembly that fails does so by one of its concerns. -/
theorem Assignment.blames (plan : Plan) (occasion : Occasion) (assignment : Assignment) :
    (assignment.inquiry plan occasion).Blames executor occasion.repositories
      (assignment.concerns plan occasion.repositories) := by
  cases assignment with
  | measurements family rows =>
    have travels : (prepare plan.useLookups occasion.repositories rows).Travels executor
        (legsOf occasion.repositories ((measurements family rows).lookups plan))
        (List.Forall₂ (PreparedFrom plan.useLookups) rows) := by
      rw [legsOf_lookups]
      exact travels_prepare plan.useLookups occasion.repositories rows
    refine .bind travels (blames_prepare plan.useLookups rows) fun prepared isPrepared => ?_
    obtain ⟨travels, blames⟩ := blames_inquireAll (areOf_measurements isPrepared)
    exact blames.map travels
  | checks =>
    obtain ⟨travels, blames⟩ :=
      blames_inquireAll (areOf_checks plan (occasion.filing .releases) occasion.repositories)
    exact blames.map travels

end Assembly

end RepoVitals

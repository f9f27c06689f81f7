import RepoVitals.Proofs.Assembly.Concerns
import RepoVitals.Proofs.Assembly.Fanout
/-!
Culprits: what the failure of an assembly says about where it came from.

Owns:
- `Leg.FailsAmong`: how searches that are read together can fail among the events of a fan-out;
- `Fanout.Traces`: a fan-out keeps the answers that it has heard, and ends by the failure of one of
  its volleys; one lemma for an event and one for a sequence;
- `failures_name_culprit`: the failure of an assembly names its concern, unless that is a lookup
  whose answer cannot be read.

The events of a fan-out are arbitrary here: the same search may get any answer at any time.
-/

namespace RepoVitals.Assembly

open Catalogue (Family Lookup Release Row)
open Search (Request Response)

/-! ### Events -/

/-- How the leg at a position fails among events: one of its searches is refused, or all of them are
answered and the answers cannot be read. -/
inductive Leg.FailsAmong (events : List FanoutEvent) (position : Nat) (leg : Leg) :
    Trouble → Failure → Prop
  | unanswered {search : Nat} {origin : Failure}
      (isSearch : search < leg.searches.length)
      (refused : .answer position search (.error origin) ∈ events) :
      leg.FailsAmong events position .unanswered origin
  | unreadable {responses : List Response} {origin : Failure}
      (all : responses.length = leg.searches.length)
      (heard : ∀ search response, responses[search]? = some response →
        .answer position search (.ok response) ∈ events)
      (reads : leg.reading.outcome? _ (responses.map some) = some (.error origin)) :
      leg.FailsAmong events position .unreadable origin

variable {α : Type} {volleys : List (Volley α)} {events : List FanoutEvent}

/-- A volley under way is the one at its position, with answers that have been heard. -/
structure UnderWay.Holds (volleys : List (Volley α)) (events : List FanoutEvent)
    (flying : UnderWay α) : Prop where
  found : volleys[flying.position]? = some flying.volley
  whole : flying.answers.length = flying.volley.searches.length
  heard : ∀ search response, flying.answers[search]? = some (some response) →
    .answer flying.position search (.ok response) ∈ events

theorem UnderWay.Holds.mono {later : List FanoutEvent} {flying : UnderWay α}
    (holds : flying.Holds volleys events) : flying.Holds volleys (events ++ later) where
  found := holds.found
  whole := holds.whole
  heard := fun search response isHeard =>
    List.mem_append_left _ (holds.heard search response isHeard)

theorem UnderWay.holds_of_sent
    {position : Nat}
    {volley : Volley α}
    (found : volleys[position]? = some volley) :
    UnderWay.Holds volleys events ⟨position, volley, volley.searches.map fun _ => none⟩ := by
  refine ⟨found, List.length_map _, fun search response isHeard => ?_⟩
  rw [List.getElem?_map] at isHeard
  obtain ⟨request, -, isSome⟩ := Option.map_eq_some_iff.mp isHeard
  cases isSome

/-- One more answer is heard. -/
theorem UnderWay.Holds.hear
    {flying : UnderWay α}
    (holds : flying.Holds volleys events)
    (search : Nat)
    (response : Response) :
    UnderWay.Holds volleys (events ++ [.answer flying.position search (.ok response)])
      { flying with answers := flying.answers.set search (some response) } := by
  refine ⟨holds.found, ?_, fun search' response' isHeard => ?_⟩
  · rw [List.length_set]
    exact holds.whole
  · rw [List.getElem?_set] at isHeard
    split at isHeard
    · rename_i here
      subst here
      split at isHeard <;> cases isHeard
      exact List.mem_append_right _ List.mem_cons_self
    · exact holds.mono.heard search' response' isHeard

/-- The fan-out goes on with the volleys that it has not sent, or one of its volleys has failed. -/
inductive Fanout.Traces (volleys : List (Volley α)) (events : List FanoutEvent)
    (fanout : Fanout α) : Prop where
  | running (unfailed : fanout.failure = none)
      (waits : fanout.waiting = volleys.drop fanout.sent)
      (flies : ∀ flying ∈ fanout.underWay, flying.Holds volleys events)
  | failed (position : Nat) (volley : Volley α) (trouble : Trouble) (origin : Failure)
      (noneWaits : fanout.waiting = [])
      (noneFlies : fanout.underWay = [])
      (found : volleys[position]? = some volley)
      (fails : (Leg.ofVolley volley).FailsAmong events position trouble origin)
      (ended : fanout.failure = some (origin.within volley.circumstance))

/-- A reading comes to something only when all answers are there. -/
theorem Reading.exists_responses {outcome : Outcome α} :
    ∀ {count : Nat} {reading : Reading α count} {answers : List (Option Response)},
      answers.length = count → reading.outcome? count answers = some outcome →
      ∃ responses : List Response, answers = responses.map some
  | 0, _, answers, whole, _ => ⟨[], List.length_eq_zero_iff.mp whole⟩
  | count + 1, reading, some response :: rest, whole, read => by
    obtain ⟨responses, rfl⟩ := exists_responses (Nat.succ.inj whole) read
    exact ⟨response :: responses, rfl⟩
  | count + 1, _, none :: rest, _, read => by cases read

namespace Fanout

/-- The first volley that waits is the next one to be sent. -/
theorem getElem?_sent
    {fanout : Fanout α}
    {volley : Volley α}
    {rest : List (Volley α)}
    (waits : fanout.waiting = volleys.drop fanout.sent)
    (isFirst : fanout.waiting = volley :: rest) :
    volleys[fanout.sent]? = some volley := by
  rw [← Nat.add_zero fanout.sent, ← List.getElem?_drop, ← waits, isFirst]
  rfl

theorem Traces.place
    {fanout : Fanout α}
    {flying : UnderWay α}
    (unfailed : fanout.failure = none)
    (waits : fanout.waiting = volleys.drop fanout.sent)
    (flies : ∀ other ∈ fanout.underWay, other.Holds volleys events)
    (holds : flying.Holds volleys events) :
    (fanout.place flying).Traces volleys events := by
  unfold Fanout.place
  split
  · refine .running unfailed waits fun other isOther => ?_
    rcases List.mem_append.mp isOther with earlier | same
    · exact flies other earlier
    · rw [List.mem_singleton.mp same]
      exact holds
  · exact .running unfailed waits flies
  · rename_i failure isError
    obtain ⟨outcome, read, isFailure⟩ := Option.map_eq_some_iff.mp isError
    cases outcome with
    | ok result => cases isFailure
    | error origin =>
      cases isFailure
      obtain ⟨responses, areResponses⟩ := Reading.exists_responses holds.whole read
      have all : responses.length = flying.volley.searches.length := by
        rw [← List.length_map some, ← areResponses]
        exact holds.whole
      have heard : ∀ search response, responses[search]? = some response →
          .answer flying.position search (.ok response) ∈ events := by
        intro search response isResponse
        apply holds.heard
        rw [areResponses, List.getElem?_map, isResponse, Option.map_some]
      have reads : (Leg.ofVolley flying.volley).reading.outcome? _ (responses.map some) =
          some (.error origin) := by
        rw [Leg.ofVolley, Inquiry.outcome?_map, ← areResponses, read]
        rfl
      have fails : (Leg.ofVolley flying.volley).FailsAmong events flying.position .unreadable
          origin := .unreadable all heard reads
      exact .failed flying.position flying.volley .unreadable origin rfl rfl holds.found fails rfl

theorem Traces.step
    {before after : Fanout α}
    {event : FanoutEvent}
    (traces : before.Traces volleys events)
    (stepped : before.step event = some after) :
    after.Traces volleys (events ++ [event]) := by
  cases traces with
  | failed position volley trouble origin noneWaits noneFlies found fails ended =>
    -- Nothing waits and nothing flies, so nothing more can happen.
    cases stepped_of_step stepped with
    | sent volley' rest waits room =>
      rw [noneWaits] at waits
      cases waits
    | heard position' search flying response isFound missing =>
      rw [noneFlies] at isFound
      cases isFound
    | refused position' search flying failure isFound missing =>
      rw [noneFlies] at isFound
      cases isFound
  | running unfailed waits flies =>
    have stillFlies : ∀ flying ∈ before.underWay, flying.Holds volleys (events ++ [event]) :=
      fun flying aloft => (flies flying aloft).mono
    cases stepped_of_step stepped with
    | sent volley rest isFirst room =>
      refine .place unfailed ?_ stillFlies (UnderWay.holds_of_sent (getElem?_sent waits isFirst))
      rw [isFirst] at waits
      rw [← List.drop_drop, ← waits]
      rfl
    | heard position search flying response isFound missing =>
      have aloft := List.mem_of_find?_eq_some isFound
      have same : flying.position = position := by simpa using List.find?_some isFound
      subst same
      refine .place unfailed waits (fun other isOther => ?_)
        ((flies flying aloft).hear search response)
      exact stillFlies other (List.mem_of_mem_filter isOther)
    | refused position search flying origin isFound missing =>
      have aloft := List.mem_of_find?_eq_some isFound
      have same : flying.position = position := by simpa using List.find?_some isFound
      subst same
      have holds := stillFlies flying aloft
      refine .failed flying.position flying.volley .unanswered origin rfl rfl holds.found ?_ rfl
      have inside := (List.getElem?_eq_some_iff.mp missing).1
      rw [holds.whole] at inside
      exact .unanswered inside (List.mem_append_right _ List.mem_cons_self)

theorem Traces.exec
    {before after : Fanout α}
    {later : List FanoutEvent}
    (traces : before.Traces volleys events)
    (course : before.exec later = some after) :
    after.Traces volleys (events ++ later) := by
  induction later generalizing before events with
  | nil =>
    cases course
    rwa [List.append_nil]
  | cons event rest inductionHypothesis =>
    obtain ⟨next, stepped, course⟩ := Option.bind_eq_some_iff.mp course
    have traced := inductionHypothesis (traces.step stepped) course
    rwa [List.append_assoc] at traced

/-- A fan-out that ends by a failure ends by that of one of its volleys. -/
theorem fails_of_exec
    {limit : Nat}
    {after : Fanout α}
    {failure : Failure}
    (course : (new limit volleys).exec events = some after)
    (ended : after.failure = some failure) :
    ∃ position volley trouble origin, volleys[position]? = some volley ∧
      (Leg.ofVolley volley).FailsAmong events position trouble origin ∧
      failure = origin.within volley.circumstance := by
  have fresh : (new limit volleys).Traces volleys [] := .running rfl rfl nofun
  cases fresh.exec course with
  | running unfailed waits flies =>
    rw [unfailed] at ended
    cases ended
  | failed position volley trouble origin noneWaits noneFlies found fails ended' =>
    rw [ended'] at ended
    exact ⟨position, volley, trouble, origin, found, fails, (Option.some.inj ended).symm⟩

end Fanout

/-! ### Assemblies -/

/-- Among these events an assembly that works on several pairs at a time fails.  Its lookups have
been answered before, by whatever executor. -/
inductive Assignment.FailsInFlight (plan : Plan) (occasion : Occasion)
    (events : List FanoutEvent) (failure : Failure) : Assignment → Prop
  | measuring {family : Family} {rows : List Row} {executor : Executor} {asked : List Request}
      {prepared : List PreparedRow} {after : Fanout (Placed Finding)}
      (lookedUp : ((prepare plan.useLookups occasion.repositories rows).run executor asked).2 =
        .ok prepared)
      (course : (plan.measurements occasion.repositories prepared).exec events = some after)
      (ended : after.failure = some failure) :
      FailsInFlight plan occasion events failure (.measurements family rows)
  | checking {after : Fanout (Placed Document)}
      (course : (plan.checks (occasion.filing .releases) occasion.repositories).exec events =
        some after)
      (ended : after.failure = some failure) :
      FailsInFlight plan occasion events failure .checks

/-- Among these events the assembly fails by one of its pairs, and the failure reports that. -/
def Assignment.FailsByPair (plan : Plan) (repositories : List String)
    (events : List FanoutEvent) (failure : Failure) (assignment : Assignment) : Prop :=
  ∃ (position : Nat) (concern : Concern) (trouble : Trouble) (origin : Failure),
    (assignment.pairs plan repositories)[position]? = some concern ∧
      (concern.leg repositories).FailsAmong events position trouble origin ∧
      concern.Reports trouble origin failure

variable {plan : Plan} {occasion : Occasion} {repositories : List String} {failure : Failure}

theorem failsByPair_of_exec
    {assignment : Assignment}
    {limit : Nat}
    {after : Fanout α}
    (areOf : List.Forall₂ (fun concern volley => concern.IsOf repositories volley)
      (assignment.pairs plan repositories) volleys)
    (course : (Fanout.new limit volleys).exec events = some after)
    (ended : after.failure = some failure) :
    assignment.FailsByPair plan repositories events failure := by
  obtain ⟨position, volley, trouble, origin, found, fails, rfl⟩ := Fanout.fails_of_exec course ended
  obtain ⟨inside, rfl⟩ := List.getElem?_eq_some_iff.mp found
  have insidePairs : position < (assignment.pairs plan repositories).length := by
    rwa [areOf.length_eq]
  have isOf : (assignment.pairs plan repositories)[position].IsOf repositories volleys[position] :=
    areOf.get insidePairs inside
  rw [isOf.leg] at fails
  rw [isOf.circumstance]
  exact ⟨position, _, trouble, origin, List.getElem?_eq_getElem insidePairs, fails,
    Concern.reports_within (isOf.isTold trouble) origin⟩

theorem Assignment.FailsInFlight.failsByPair
    {assignment : Assignment}
    (fails : assignment.FailsInFlight plan occasion events failure) :
    assignment.FailsByPair plan occasion.repositories events failure := by
  cases fails with
  | @measuring family rows executor asked prepared after lookedUp course ended =>
    have travels : (prepare plan.useLookups occasion.repositories rows).Travels executor _
        (List.Forall₂ (PreparedFrom plan.useLookups) rows) :=
      travels_prepare plan.useLookups occasion.repositories rows
    have isPrepared : List.Forall₂ (PreparedFrom plan.useLookups) rows prepared := by
      obtain ⟨result, isResult, -, isPrepared⟩ | ⟨_, _, _, isFailure, -, -⟩ := travels asked
      · rw [isResult] at lookedUp
        cases lookedUp
        exact isPrepared
      · rw [isFailure] at lookedUp
        cases lookedUp
    exact failsByPair_of_exec (areOf_measurements isPrepared) course ended
  | checking course ended =>
    exact failsByPair_of_exec (areOf_checks plan _ occasion.repositories) course ended

/-- **The failure of an assembly names its culprit.**  An assembly that works on one pair after the
other fails by the first concern that it cannot pass, and one that works on several pairs at a time
fails by one of its pairs.  The failure tells the row or the version, and the repository if there is
one, in all cases but one: where the answer to a lookup cannot be read, nothing is told but that it
is malformed. -/
theorem failures_name_culprit (plan : Plan) (family : Family) (occasion : Occasion) :
    (∀ executor past asked failure,
      (assemble plan family occasion).run executor past = (asked, .error failure) →
        FailsBy executor occasion.repositories past
          ((Assignment.ofFamily family).concerns plan occasion.repositories) asked failure) ∧
    ∀ events failure, (Assignment.ofFamily family).FailsInFlight plan occasion events failure →
      (Assignment.ofFamily family).FailsByPair plan occasion.repositories events failure := by
  refine ⟨fun executor past asked failure fails => ?_,
    fun events failure fails => fails.failsByPair⟩
  rw [← Assignment.inquiry_ofFamily] at fails
  exact (Assignment.ofFamily family).blames plan occasion past asked failure fails

/-- The answer to the lookup of the issue labels is not what was asked for, and the failure does not
say that it was about issue labels. -/
theorem failures_name_culprit_unless_lookup_unreadable :
    let plan : Plan := ⟨true, [⟨"3.0.0", "open"⟩], 2⟩
    let occasion : Occasion := ⟨["alpha"], ⟨2024, 6, 1, by decide⟩, ⟨1717210800, 0⟩⟩
    let executor : Executor := .steady fun _ => .ok ⟨some 3, [], .empty⟩
    (∃ asked failure, (assemble plan .labels occasion).run executor [] = (asked, .error failure) ∧
      FailsBy executor ["alpha"] []
        ((Assignment.ofFamily .labels).concerns plan ["alpha"]) asked failure ∧
      failure.chain = ["💀 Malformed search response: aggregation 'repos' is missing"] ∧
      ¬failure.Mentions "Issue Labels") ∧
    ∃ events failure, (Assignment.ofFamily .releases).FailsInFlight plan occasion events failure ∧
      (Assignment.ofFamily .releases).FailsByPair plan ["alpha"] events failure ∧
      failure.Mentions "3.0.0" ∧ failure.Mentions "alpha" := by
  intro plan occasion executor
  have sequential := (failures_name_culprit plan .labels occasion).1
  have inFlight := (failures_name_culprit plan .releases occasion).2
  refine ⟨⟨_, _, rfl, sequential executor [] _ _ rfl, rfl, ?_⟩, ?_⟩
  · rintro ⟨message, isMessage, occurs⟩
    obtain rfl : message = "💀 Malformed search response: aggregation 'repos' is missing" :=
      List.mem_singleton.mp isMessage
    revert occurs
    decide +kernel
  · have fails : (Assignment.ofFamily .releases).FailsInFlight plan occasion
        [.send, .answer 0 2 (.error (.ofCause .unanswered))]
        ((Failure.ofCause .unanswered).within (.checkingRelease "3.0.0" "alpha")) :=
      .checking rfl rfl
    have mentions := Concern.mentions_within (.checking ⟨"3.0.0", "open"⟩ "alpha")
      (.ofCause .unanswered)
    exact ⟨_, _, fails, inFlight _ _ fails, mentions "3.0.0" List.mem_cons_self,
      mentions "alpha" (List.mem_cons_of_mem _ List.mem_cons_self)⟩

end RepoVitals.Assembly

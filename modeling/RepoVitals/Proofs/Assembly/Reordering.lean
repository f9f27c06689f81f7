import RepoVitals.Proofs.Assembly.Fanout
import RepoVitals.Proofs.Assembly.Findings
import RepoVitals.Proofs.Assembly.Itinerary
import RepoVitals.Proofs.Assembly.Labels
import RepoVitals.Proofs.Search.Reordering
/-!
Assemblies whose answers differ in the order of buckets.

Owns:
- `Inquiry.Agrees`: two executors are asked the same searches and bring inquiries to related
  results; one rule for each way of building an inquiry;
- volleys that read reordered answers alike, and the volleys of measurements and checks among them;
- `Fanout.Alike`: two fan-outs side by side, among events that differ in the order of buckets; one
  lemma for an event and one for a sequence;
- `bucket_order_never_shows`: no order of buckets shows in a batch or in the list of repositories.
-/

namespace RepoVitals

theorem Outcome.Alike.within
    {α β : Type}
    {related : α → β → Prop}
    {outcome : Outcome α}
    {outcome' : Outcome β}
    (alike : Outcome.Alike related outcome outcome')
    (circumstance : Circumstance) :
    Outcome.Alike related (outcome.mapError fun failure => failure.within circumstance)
      (outcome'.mapError fun failure => failure.within circumstance) := by
  cases alike with
  | ok results => exact .ok results
  | error failure failure' => exact .error _ _

namespace Assembly

open Catalogue (Family Release Row)
open Search (OrderBlind Request Response)

/-- Whatever was asked before, the answers differ in the order of buckets at most. -/
def Executor.Reordered (executor executor' : Executor) : Prop :=
  ∀ asked request,
    Outcome.Alike Response.Reordered (executor asked request) (executor' asked request)

variable {α β γ δ : Type} {executor executor' : Executor}

/-! ### Inquiries -/

namespace Inquiry

/-- Whatever was asked before, the executors are asked the same, and bring the inquiries to related
results or both to a failure. -/
def Agrees (executor executor' : Executor) (related : α → β → Prop) (inquiry : Inquiry α)
    (inquiry' : Inquiry β) : Prop :=
  ∀ asked, (inquiry.run executor asked).1 = (inquiry'.run executor' asked).1 ∧
    Outcome.Alike related (inquiry.run executor asked).2 (inquiry'.run executor' asked).2

namespace Agrees

variable {related : α → β → Prop} {related' : γ → δ → Prop}

theorem pure {result : α} {result' : β} (results : related result result') :
    Agrees executor executor' related (Pure.pure result) (Pure.pure result') :=
  fun _ => ⟨rfl, .ok results⟩

theorem ofOutcome
    {outcome : Outcome α}
    {outcome' : Outcome β}
    (alike : Outcome.Alike related outcome outcome') :
    Agrees executor executor' related (.ofOutcome outcome) (.ofOutcome outcome') := by
  cases alike with
  | ok results => exact pure results
  | error failure failure' => exact fun _ => ⟨rfl, .error failure failure'⟩

theorem bind
    {inquiry : Inquiry α}
    {inquiry' : Inquiry β}
    {next : α → Inquiry γ}
    {next' : β → Inquiry δ}
    (first : Agrees executor executor' related inquiry inquiry')
    (second : ∀ result result', related result result' →
      Agrees executor executor' related' (next result) (next' result')) :
    Agrees executor executor' related' (inquiry >>= next) (inquiry' >>= next') := by
  intro asked
  obtain ⟨sameSearches, alike⟩ := first asked
  rw [run_bind, run_bind]
  generalize inquiry.run executor asked = course at *
  generalize inquiry'.run executor' asked = course' at *
  obtain ⟨askedThen, outcome⟩ := course
  obtain ⟨askedThen', outcome'⟩ := course'
  dsimp only at sameSearches alike
  subst sameSearches
  cases alike with
  | ok results => exact second _ _ results askedThen
  | error failure failure' => exact ⟨rfl, .error failure failure'⟩

theorem within
    {inquiry : Inquiry α}
    {inquiry' : Inquiry β}
    (agrees : Agrees executor executor' related inquiry inquiry')
    (circumstance : Circumstance) :
    Agrees executor executor' related (inquiry.within circumstance)
      (inquiry'.within circumstance) := by
  intro asked
  rw [run_within, run_within]
  exact ⟨(agrees asked).1, (agrees asked).2.within circumstance⟩

theorem search (reordered : executor.Reordered executor') (request : Request) :
    Agrees executor executor' Response.Reordered (.search request) (.search request) := by
  intro asked
  exact ofOutcome (reordered asked request) (asked ++ [request])

/-- What one search brings, read alike. -/
theorem read
    {reading : Response → Outcome α}
    {inquiry inquiry' : Inquiry Response}
    (blind : OrderBlind reading)
    (agrees : Agrees executor executor' Response.Reordered inquiry inquiry') :
    Agrees executor executor' Eq (inquiry >>= fun answer => .ofOutcome (reading answer))
      (inquiry' >>= fun answer => .ofOutcome (reading answer)) :=
  agrees.bind fun answer answer' answers => ofOutcome (blind answer answer' answers)

/-- One inquiry after the other. -/
theorem forEach
    {items : List β}
    {inquiryOf : β → Inquiry α}
    (each : ∀ item ∈ items, Agrees executor executor' Eq (inquiryOf item) (inquiryOf item)) :
    Agrees executor executor' Eq (Inquiry.forEach items inquiryOf)
      (Inquiry.forEach items inquiryOf) := by
  induction items with
  | nil => exact pure rfl
  | cons item rest inductionHypothesis =>
    obtain ⟨here, later⟩ := List.forall_mem_cons.mp each
    refine here.bind fun result result' same => ?_
    refine (inductionHypothesis later).bind fun results results' same' => ?_
    rw [same, same']
    exact pure rfl

/-- Of inquiries that agree, one asks certain searches and comes to a certain result exactly if the
other one does. -/
theorem run_eq_ok_iff
    {inquiry inquiry' : Inquiry α}
    (agrees : Agrees executor executor' Eq inquiry inquiry')
    (past asked : List Request)
    (result : α) :
    inquiry.run executor past = (asked, .ok result) ↔
      inquiry'.run executor' past = (asked, .ok result) := by
  obtain ⟨sameSearches, alike⟩ := agrees past
  rw [Prod.ext_iff, Prod.ext_iff, sameSearches, alike.eq_ok_iff]

end Agrees

end Inquiry

/-! ### Volleys -/

/-- The readings come to the same from answers that differ in the order of buckets. -/
def Reading.Alike : (count : Nat) → Reading α count → Reading α count → Prop
  | 0, outcome, outcome' => Outcome.Alike Eq outcome outcome'
  | count + 1, reading, reading' => ∀ answer answer', answer.Reordered answer' →
    Alike count (reading answer) (reading' answer')

theorem Reading.Alike.map
    (change : α → β)
    {count : Nat}
    {reading reading' : Reading α count}
    (alike : Reading.Alike count reading reading') :
    Reading.Alike count (reading.map change) (reading'.map change) := by
  induction count with
  | zero => exact Outcome.Alike.map alike change
  | succ count inductionHypothesis =>
    exact fun answer answer' answers => inductionHypothesis (alike answer answer' answers)

theorem Reading.Alike.outcome?
    {count : Nat}
    {reading reading' : Reading α count}
    {answers answers' : List (Option Response)}
    (alike : Reading.Alike count reading reading')
    (heard : List.Forall₂ (Option.Rel Response.Reordered) answers answers') :
    Option.Rel (Outcome.Alike Eq) (reading.outcome? count answers)
      (reading'.outcome? count answers') := by
  induction count generalizing answers answers' with
  | zero => exact .some alike
  | succ count inductionHypothesis =>
    cases heard with
    | nil => exact .none
    | cons here later =>
      cases here with
      | none => exact .none
      | some responses => exact inductionHypothesis (alike _ _ responses) later

theorem Inquiry.agrees_ofSearches
    (reordered : executor.Reordered executor')
    (searches : List Request)
    {reading reading' : Reading α searches.length}
    (alike : Reading.Alike searches.length reading reading') :
    Inquiry.Agrees executor executor' Eq (.ofSearches searches reading)
      (.ofSearches searches reading') := by
  induction searches with
  | nil => exact .ofOutcome alike
  | cons search rest inductionHypothesis =>
    exact (Inquiry.Agrees.search reordered search).bind fun answer answer' answers =>
      inductionHypothesis (alike answer answer' answers)

namespace Volley

/-- The volley reads alike what differs in the order of buckets. -/
def OrderBlind (volley : Volley α) : Prop := Reading.Alike _ volley.reading volley.reading

theorem OrderBlind.map
    (change : α → β)
    {volley : Volley α}
    (blind : volley.OrderBlind) :
    (volley.map change).OrderBlind :=
  Reading.Alike.map change blind

theorem OrderBlind.inquiry
    {volley : Volley α}
    (blind : volley.OrderBlind)
    (reordered : executor.Reordered executor') :
    Inquiry.Agrees executor executor' Eq volley.inquiry volley.inquiry :=
  (Inquiry.agrees_ofSearches reordered volley.searches blind).within volley.circumstance

theorem OrderBlind.outcome?
    {volley : Volley α}
    {answers answers' : List (Option Response)}
    (blind : volley.OrderBlind)
    (heard : List.Forall₂ (Option.Rel Response.Reordered) answers answers') :
    Option.Rel (Outcome.Alike Eq) (volley.outcome? answers) (volley.outcome? answers') := by
  have outcomes := Reading.Alike.outcome? blind heard
  unfold Volley.outcome?
  generalize volley.reading.outcome? _ answers = outcome? at *
  generalize volley.reading.outcome? _ answers' = outcome?' at *
  cases outcomes with
  | none => exact .none
  | some outcomes => exact .some (outcomes.within volley.circumstance)

theorem OrderBlind.inquireAll
    {volleys : List (Volley α)}
    (blind : ∀ volley ∈ volleys, volley.OrderBlind)
    (reordered : executor.Reordered executor') :
    Inquiry.Agrees executor executor' Eq (inquireAll volleys) (inquireAll volleys) :=
  .forEach fun volley isVolley => (blind volley isVolley).inquiry reordered

end Volley

theorem orderBlind_findingVolley (row : Row) (repository : String) :
    (findingVolley row repository).OrderBlind := by
  have extracts : OrderBlind row.extract := Catalogue.orderBlind_extract row.measure
  have plain (limit : Option Int) :
      OrderBlind fun answer => (row.extract answer).map (Finding.mk · limit) :=
    fun answer answer' answers => (extracts answer answer' answers).map _
  unfold findingVolley
  dsimp only
  split
  · exact plain none
  · exact plain _
  · intro answer answer' answers second second' seconds
    refine (extracts answer answer' answers).bind fun extracted extracted' same => ?_
    refine (Catalogue.orderBlind_shareOf _ second second' seconds).bind fun share share' same' => ?_
    rw [same, same']
    exact .refl _

theorem orderBlind_readinessVolley (release : Release) (repository : String) :
    (readinessVolley release repository).OrderBlind :=
  fun _ _ issuesOpen _ _ autocutIssuesOpen _ _ issuesClosed _ _ pullsOpen _ _ pullsClosed _ _
      releaseIssue =>
    Catalogue.alike_readinessOf issuesOpen autocutIssuesOpen issuesClosed pullsOpen pullsClosed
      releaseIssue

/-! ### Assemblies -/

theorem orderBlind_measurementsOf (repositories : List String) (rows : List PreparedRow) :
    ∀ volley ∈ measurementsOf repositories rows, volley.OrderBlind := by
  intro volley isVolley
  obtain ⟨task, -, rfl⟩ := List.mem_map.mp isVolley
  exact (orderBlind_findingVolley task.subject.row task.repository).map task.placed

theorem orderBlind_checksOf
    (filing : Filing)
    (repositories : List String)
    (releases : List Release) :
    ∀ volley ∈ checksOf filing repositories releases, volley.OrderBlind := by
  intro volley isVolley
  obtain ⟨task, -, rfl⟩ := List.mem_map.mp isVolley
  exact (orderBlind_readinessVolley task.subject task.repository).map _

/-- The search for the repositories there are. -/
def listing (limit : Nat) : Request :=
  (Request.count Catalogue.Holding.repositories .all).aggregating
    Catalogue.repositoriesName (.terms Catalogue.Field.repository limit)

section

variable (reordered : executor.Reordered executor')
include reordered

theorem agrees_prepare (useLookups : Bool) (repositories : List String) (rows : List Row) :
    Inquiry.Agrees executor executor' Eq (prepare useLookups repositories rows)
      (prepare useLookups repositories rows) := by
  refine .forEach fun row _ => ?_
  split
  · exact .pure rfl
  · rename_i lookup _
    have answered := (Inquiry.Agrees.search reordered
      (lookup.request row.index repositories)).within (.lookingUp row.name)
    refine .bind (.read (Search.orderBlind_nestedTerms _ (by decide)) answered)
      fun table table' same => ?_
    rw [same]
    exact .pure rfl

theorem Assignment.agrees (plan : Plan) (occasion : Occasion) (assignment : Assignment) :
    Inquiry.Agrees executor executor' Eq (assignment.inquiry plan occasion)
      (assignment.inquiry plan occasion) := by
  cases assignment with
  | measurements family rows =>
    refine (agrees_prepare reordered _ _ rows).bind fun prepared prepared' same => ?_
    rw [same]
    have measured := Volley.OrderBlind.inquireAll
      (orderBlind_measurementsOf occasion.repositories prepared') reordered
    refine measured.bind fun findings findings' sameFindings => ?_
    rw [sameFindings]
    exact .pure rfl
  | checks =>
    have checked := Volley.OrderBlind.inquireAll
      (orderBlind_checksOf (occasion.filing .releases) occasion.repositories plan.releases)
      reordered
    refine checked.bind fun documents documents' same => ?_
    rw [same]
    exact .pure rfl

theorem agrees_discover (limit : Nat) :
    Inquiry.Agrees executor executor' Eq (discover limit) (discover limit) := by
  have answered :=
    (Inquiry.Agrees.search reordered (listing limit)).within .listingRepositories
  refine answered.bind fun answer answer' answers => ?_
  refine (Inquiry.Agrees.ofOutcome (Search.orderBlind_terms _ answer answer' answers)).bind
    fun table table' same => ?_
  rw [same]
  exact .pure rfl

end

/-! ### Fan-outs -/

/-- The same event but for the order of buckets in the answer. -/
inductive FanoutEvent.Alike : FanoutEvent → FanoutEvent → Prop
  | send : Alike .send .send
  | answer (volley search : Nat) {outcome outcome' : Outcome Response}
      (outcomes : Outcome.Alike Response.Reordered outcome outcome') :
      Alike (.answer volley search outcome) (.answer volley search outcome')

/-- The same volley under way, with answers that differ in the order of buckets. -/
structure UnderWay.Alike (flying flying' : UnderWay α) : Prop where
  position : flying.position = flying'.position
  volley : flying.volley = flying'.volley
  blind : flying.volley.OrderBlind
  answers : List.Forall₂ (Option.Rel Response.Reordered) flying.answers flying'.answers

namespace Fanout

/-- Both fan-outs have come to the same, but for the order of buckets in what they have heard; no
volley of theirs tells the difference. -/
structure Alike (fanout fanout' : Fanout α) : Prop where
  limit : fanout.limit = fanout'.limit
  sent : fanout.sent = fanout'.sent
  waiting : fanout.waiting = fanout'.waiting
  blind : ∀ volley ∈ fanout.waiting, volley.OrderBlind
  underWay : List.Forall₂ UnderWay.Alike fanout.underWay fanout'.underWay
  completed : fanout.completed = fanout'.completed
  failure : fanout.failure.isSome = fanout'.failure.isSome

variable {fanout fanout' : Fanout α} {flying flying' : UnderWay α}

theorem alike_new
    (limit : Nat)
    {volleys : List (Volley α)}
    (blind : ∀ volley ∈ volleys, volley.OrderBlind) :
    (new limit volleys).Alike (new limit volleys) :=
  ⟨rfl, rfl, rfl, blind, .nil, rfl, rfl⟩

theorem Alike.fail (alike : fanout.Alike fanout') (failure failure' : Failure) :
    (fanout.fail failure).Alike (fanout'.fail failure') :=
  ⟨alike.limit, alike.sent, rfl, nofun, .nil, alike.completed, rfl⟩

theorem Alike.place (alike : fanout.Alike fanout') (flies : flying.Alike flying') :
    (fanout.place flying).Alike (fanout'.place flying') := by
  have outcomes : Option.Rel (Outcome.Alike Eq) (flying.volley.outcome? flying.answers)
      (flying'.volley.outcome? flying'.answers) :=
    flies.volley ▸ flies.blind.outcome? flies.answers
  unfold Fanout.place
  generalize flying.volley.outcome? flying.answers = outcome? at *
  generalize flying'.volley.outcome? flying'.answers = outcome?' at *
  cases outcomes with
  | none =>
    exact ⟨alike.limit, alike.sent, alike.waiting, alike.blind,
      List.rel_append alike.underWay (.cons flies .nil), alike.completed, alike.failure⟩
  | some outcomes =>
    cases outcomes with
    | ok results =>
      refine ⟨alike.limit, alike.sent, alike.waiting, alike.blind, alike.underWay, ?_,
        alike.failure⟩
      rw [alike.completed, results]
    | error failure failure' => exact alike.fail failure failure'

theorem Alike.withdraw (alike : fanout.Alike fanout') (position : Nat) :
    (fanout.withdraw position).Alike (fanout'.withdraw position) := by
  refine ⟨alike.limit, alike.sent, alike.waiting, alike.blind, ?_, alike.completed, alike.failure⟩
  refine List.rel_filter (fun flying flying' flies => ?_) alike.underWay
  simp only [flies.position]

theorem Alike.find? (alike : fanout.Alike fanout') (position : Nat) :
    Option.Rel UnderWay.Alike
      (fanout.underWay.find? fun flying => flying.position = position)
      (fanout'.underWay.find? fun flying => flying.position = position) := by
  have underWay := alike.underWay
  generalize fanout.underWay = flights at *
  generalize fanout'.underWay = flights' at *
  induction underWay with
  | nil => exact .none
  | cons flies later inductionHypothesis =>
    rw [List.find?_cons, List.find?_cons, flies.position]
    split
    · exact .some flies
    · exact inductionHypothesis

/-- An event that is possible for one of the fan-outs is possible for the other, and leads them to
the same. -/
theorem Alike.step
    {event event' : FanoutEvent}
    (alike : fanout.Alike fanout')
    (events : event.Alike event') :
    Option.Rel Alike (fanout.step event) (fanout'.step event') := by
  cases events with
  | send =>
    have sameLength := alike.underWay.length_eq
    simp only [Fanout.step, ← alike.waiting, ← alike.limit, ← sameLength, ← alike.sent]
    split
    · exact .none
    · rename_i volley rest waits
      split
      · have blind := alike.blind
        rw [waits] at blind
        obtain ⟨isBlind, areBlind⟩ := List.forall_mem_cons.mp blind
        refine .some (Alike.place ⟨rfl, rfl, rfl, areBlind, alike.underWay, alike.completed,
          alike.failure⟩ ⟨rfl, rfl, isBlind, ?_⟩)
        refine List.forall₂_same.mpr fun answer isAnswer => ?_
        obtain ⟨_, -, rfl⟩ := List.mem_map.mp isAnswer
        exact .none
      · exact .none
  | answer position search outcomes =>
    have found := alike.find? position
    simp only [Fanout.step, Option.bind_eq_bind]
    generalize fanout.underWay.find? _ = flying? at *
    generalize fanout'.underWay.find? _ = flying?' at *
    cases found with
    | none => exact .none
    | @some flying flying' flies =>
      have missing := rel_getElem? flies.answers search
      simp only [Option.bind_some]
      generalize flying.answers[search]? = answer? at *
      generalize flying'.answers[search]? = answer?' at *
      cases missing with
      | none => cases outcomes <;> exact .none
      | some answers =>
        cases answers with
        | some responses => cases outcomes <;> exact .none
        | none =>
          cases outcomes with
          | ok responses =>
            exact .some ((alike.withdraw position).place ⟨flies.position, flies.volley, flies.blind,
              forall₂_set flies.answers search (.some responses)⟩)
          | error failure failure' => exact .some (alike.fail _ _)

theorem Alike.exec
    {events events' : List FanoutEvent}
    (alike : fanout.Alike fanout')
    (sameEvents : List.Forall₂ FanoutEvent.Alike events events') :
    Option.Rel Alike (fanout.exec events) (fanout'.exec events') := by
  induction sameEvents generalizing fanout fanout' with
  | nil => exact .some alike
  | @cons event event' rest rest' here later inductionHypothesis =>
    have stepped := alike.step here
    rw [Fanout.exec, Fanout.exec]
    generalize fanout.step event = after? at *
    generalize fanout'.step event' = after?' at *
    cases stepped with
    | none => exact .none
    | some after => exact inductionHypothesis after

theorem Alike.outcome? (alike : fanout.Alike fanout') :
    Option.Rel (Outcome.Alike Eq) fanout.outcome? fanout'.outcome? := by
  have failures := alike.failure
  have noneFly : fanout.underWay.isEmpty = fanout'.underWay.isEmpty := by
    have underWay := alike.underWay
    generalize fanout.underWay = flights at *
    generalize fanout'.underWay = flights' at *
    cases underWay <;> rfl
  unfold Fanout.outcome?
  rw [← alike.waiting, ← noneFly, ← alike.completed]
  generalize fanout.failure = failure? at *
  generalize fanout'.failure = failure?' at *
  cases failure? with
  | none =>
    cases failure?' with
    | none =>
      dsimp only
      split
      · exact .some (.refl _)
      · exact .none
    | some failure' => cases failures
  | some failure =>
    cases failure?' with
    | none => cases failures
    | some failure' => exact .some (.error _ _)

/-- Among these events the fan-out comes to these results. -/
def Finishes (fanout : Fanout α) (events : List FanoutEvent) (results : List α) : Prop :=
  ∃ after, fanout.exec events = some after ∧ after.outcome? = some (.ok results)

theorem Alike.finishes_iff
    {events events' : List FanoutEvent}
    (alike : fanout.Alike fanout')
    (sameEvents : List.Forall₂ FanoutEvent.Alike events events')
    (results : List α) :
    fanout.Finishes events results ↔ fanout'.Finishes events' results := by
  have executed := alike.exec sameEvents
  unfold Finishes
  generalize fanout.exec events = after? at *
  generalize fanout'.exec events' = after?' at *
  cases executed with
  | none => simp
  | @some after after' afters =>
    have outcomes := afters.outcome?
    simp only [Option.some.injEq, exists_eq_left']
    generalize after.outcome? = outcome? at *
    generalize after'.outcome? = outcome?' at *
    cases outcomes with
    | none => exact Iff.rfl
    | some outcomes => simpa only [Option.some.injEq] using outcomes.eq_ok_iff results

end Fanout

/-! ### Batches and repositories -/

/-- Among these events the assembly that works on several pairs at a time comes to this batch.
Before them, and after the searches in `past`, the executor has answered the lookups. -/
inductive Assignment.ComesTo (executor : Executor) (past : List Request) (plan : Plan)
    (occasion : Occasion) (events : List FanoutEvent) : Assignment → Batch → Prop
  | measured {family : Family} {rows : List Row} {prepared : List PreparedRow}
      {findings : List (Placed Finding)}
      (lookedUp : ((prepare plan.useLookups occasion.repositories rows).run executor past).2 =
        .ok prepared)
      (finishes : (plan.measurements occasion.repositories prepared).Finishes events findings) :
      ComesTo executor past plan occasion events (.measurements family rows)
        (batchOfFindings (occasion.filing family) occasion.repositories (rows.map Row.name)
          (knownOf occasion.repositories prepared ++ findings))
  | checked {documents : List (Placed Document)}
      (finishes : (plan.checks (occasion.filing .releases) occasion.repositories).Finishes events
        documents) :
      ComesTo executor past plan occasion events .checks (batchOfChecks documents)

theorem Assignment.comesTo_iff
    (reordered : executor.Reordered executor')
    (past : List Request)
    (plan : Plan)
    (occasion : Occasion)
    (assignment : Assignment)
    {events events' : List FanoutEvent}
    (sameEvents : List.Forall₂ FanoutEvent.Alike events events')
    (batch : Batch) :
    assignment.ComesTo executor past plan occasion events batch ↔
      assignment.ComesTo executor' past plan occasion events' batch := by
  have lookups (rows : List Row) (prepared : List PreparedRow) :=
    (agrees_prepare reordered plan.useLookups occasion.repositories rows past).2.eq_ok_iff prepared
  have measurements (prepared : List PreparedRow) (findings : List (Placed Finding)) :=
    (Fanout.alike_new plan.concurrency
      (orderBlind_measurementsOf occasion.repositories prepared)).finishes_iff sameEvents findings
  have checks (documents : List (Placed Document)) :=
    (Fanout.alike_new plan.concurrency (orderBlind_checksOf (occasion.filing .releases)
      occasion.repositories plan.releases)).finishes_iff sameEvents documents
  constructor
  · rintro (⟨lookedUp, finishes⟩ | finishes)
    · exact .measured ((lookups _ _).mp lookedUp) ((measurements _ _).mp finishes)
    · exact .checked ((checks _).mp finishes)
  · rintro (⟨lookedUp, finishes⟩ | finishes)
    · exact .measured ((lookups _ _).mpr lookedUp) ((measurements _ _).mpr finishes)
    · exact .checked ((checks _).mpr finishes)

theorem run_discover (limit : Nat) (past : List Request) :
    (discover limit).run executor past = (past ++ [listing limit], do
      let answer ← (executor past (listing limit)).mapError fun failure =>
        failure.within .listingRepositories
      let counts ← answer.terms Catalogue.repositoriesName
      .ok counts.keys) := by
  rw [discover, Inquiry.run_bind, Inquiry.run_within, Inquiry.run_search, ← listing]
  cases executor past (listing limit) with
  | error failure => rfl
  | ok answer =>
    show (Inquiry.ofOutcome (answer.terms _) >>= _).run executor _ = (_, answer.terms _ >>= _)
    cases answer.terms Catalogue.repositoriesName <;> rfl

/-- The repositories stand in ascending order, and they are the keys of the buckets in the
answer. -/
theorem exists_buckets_of_discover
    {limit : Nat}
    {past asked : List Request}
    {names : List String}
    (course : (discover limit).run executor past = (asked, .ok names)) :
    names.Pairwise (· < ·) ∧ ∃ answer aggregation buckets,
      asked = past ++ [listing limit] ∧ executor past (listing limit) = .ok answer ∧
      answer.aggregations.get? Catalogue.repositoriesName = some aggregation ∧
      aggregation.field? "buckets" = some (.array buckets) ∧
      ∀ name, name ∈ names ↔ ∃ bucket ∈ buckets, Search.Keyed bucket name := by
  rw [run_discover] at course
  obtain ⟨isAsked, areNames⟩ := Prod.mk.inj course
  obtain ⟨answer, answered, areNames⟩ := Outcome.exists_of_bind_eq_ok areNames
  obtain ⟨counts, areCounts, areNames⟩ := Outcome.exists_of_bind_eq_ok areNames
  cases areNames
  obtain ⟨aggregation, found, -, buckets, areBuckets, tabulates⟩ :=
    Response.terms_eq_ok_iff.mp areCounts
  exact ⟨counts.pairwise_keys, answer, aggregation, buckets, isAsked.symm,
    eq_ok_of_mapError_eq_ok answered, found, areBuckets, tabulates.mem_keys_iff⟩

/-- **No order of buckets shows.**  Take two executors whose answers differ only in the order of
buckets with different keys, at any depth.  If an assembly of any family comes to a batch with one
of them, it asks the other one the same searches and comes to the same batch, byte by byte; and so
it does if it works on several pairs at a time, among any events that differ in the same way.  The
repositories that are discovered are the same, too, in strictly ascending order, and exactly the
keys of the buckets. -/
theorem bucket_order_never_shows
    (executor executor' : Executor)
    (reordered : executor.Reordered executor')
    (plan : Plan)
    (family : Family)
    (occasion : Occasion)
    (limit : Nat)
    (past : List Request) :
    (∀ asked batch, (assemble plan family occasion).run executor past = (asked, .ok batch) ↔
      (assemble plan family occasion).run executor' past = (asked, .ok batch)) ∧
    (∀ events events' batch, List.Forall₂ FanoutEvent.Alike events events' →
      ((Assignment.ofFamily family).ComesTo executor past plan occasion events batch ↔
        (Assignment.ofFamily family).ComesTo executor' past plan occasion events' batch)) ∧
    ∀ asked names, ((discover limit).run executor past = (asked, .ok names) ↔
        (discover limit).run executor' past = (asked, .ok names)) ∧
      ((discover limit).run executor past = (asked, .ok names) → names.Pairwise (· < ·) ∧
        ∃ answer aggregation buckets, asked = past ++ [listing limit] ∧
          executor past (listing limit) = .ok answer ∧
          answer.aggregations.get? Catalogue.repositoriesName = some aggregation ∧
          aggregation.field? "buckets" = some (.array buckets) ∧
          ∀ name, name ∈ names ↔ ∃ bucket ∈ buckets, Search.Keyed bucket name) := by
  refine ⟨fun asked batch => ?_, fun events events' batch sameEvents => ?_, fun asked names => ?_⟩
  · rw [← Assignment.inquiry_ofFamily]
    exact (Assignment.agrees reordered plan occasion _).run_eq_ok_iff past asked batch
  · exact Assignment.comesTo_iff reordered past plan occasion _ sameEvents batch
  · exact ⟨(agrees_discover reordered limit).run_eq_ok_iff past asked names,
      exists_buckets_of_discover⟩

/-- A bucket with counts of labels inside, so that every search for labels can be answered with
it. -/
def labelledBucket (key : String) (counts : List (String × Int)) : Json.Value :=
  .object [("key", .text key), ("doc_count", .integer 3),
    (Catalogue.innerLabelsName, .object [("buckets", .array (counts.map countedBucket))])]

/-- An answer that lists the same buckets for every search for labels. -/
def listed (buckets : List Json.Value) : Response :=
  ⟨none, [], Ledger.ofList
    ([Catalogue.repositoriesName, "label_issues", "pull_issues"].map fun name =>
      (name, .object [("buckets", .array buckets)]))⟩

/-- Two buckets in the order of their keys; so are the labels in the first one. -/
def ascendingBuckets : List Json.Value :=
  [labelledBucket "a" [("bug", 2), ("docs", 1)], labelledBucket "b" [("docs", 4)]]

/-- The same buckets in the other order; so are the labels in the last one. -/
def descendingBuckets : List Json.Value :=
  [labelledBucket "b" [("docs", 4)], labelledBucket "a" [("docs", 1), ("bug", 2)]]

theorem reordered_descendingBuckets :
    (listed ascendingBuckets).Reordered (listed descendingBuckets) := by
  have labelKeys : List.Forall₂ Search.Keyed ([("bug", 2), ("docs", 1)].map countedBucket)
      ["bug", "docs"] :=
    .cons (.text rfl) (.cons (.text rfl) .nil)
  have labels := Search.ReorderedField.buckets
    ((Search.distinctKeys_iff_nodup labelKeys).mpr (by decide)) (.swap _ _ _)
    (Search.forall₂_reordered_refl _)
  have bucket : Search.Reordered (labelledBucket "a" [("bug", 2), ("docs", 1)])
      (labelledBucket "a" [("docs", 1), ("bug", 2)]) :=
    .object (.cons (.part _ (.same _)) (.cons (.part _ (.same _))
      (.cons (.part _ (.object (.cons labels .nil))) .nil)))
  have keys : List.Forall₂ Search.Keyed ascendingBuckets ["a", "b"] :=
    .cons (.text rfl) (.cons (.text rfl) .nil)
  have buckets := Search.ReorderedField.buckets
    ((Search.distinctKeys_iff_nodup keys).mpr (by decide)) (.swap _ _ _)
    (.cons (.same _) (.cons bucket .nil))
  refine ⟨rfl, rfl, Ledger.forall₂_ofList ?_⟩
  exact .cons ⟨rfl, .object (.cons buckets .nil)⟩ (.cons ⟨rfl, .object (.cons buckets .nil)⟩
    (.cons ⟨rfl, .object (.cons buckets .nil)⟩ .nil))

/-- Two searches, one after the other. -/
def answeredTwice (answer : Response) : List FanoutEvent :=
  [.send, .answer 0 0 (.ok answer), .send, .answer 1 0 (.ok answer)]

/-- Outer buckets in reverse order, and the inner ones of one of them as well. -/
theorem descending_buckets_never_show :
    let executor := Executor.steady fun _ => .ok (listed ascendingBuckets)
    let executor' := Executor.steady fun _ => .ok (listed descendingBuckets)
    let occasion : Occasion := ⟨["b", "a"], ⟨2024, 6, 1, by decide⟩, ⟨1717200000, 0⟩⟩
    let alone : Occasion := { occasion with repositories := ["a"] }
    executor.Reordered executor' ∧
    (∃ asked batch, batch.documents.length = 3 ∧
      (assemble ⟨true, [], 1⟩ .labels occasion).run executor [] = (asked, .ok batch) ∧
      (assemble ⟨true, [], 1⟩ .labels occasion).run executor' [] = (asked, .ok batch)) ∧
    (∃ batch, batch.documents.length = 2 ∧
      Assignment.ComesTo executor [] ⟨false, [], 1⟩ alone
        (answeredTwice (listed ascendingBuckets)) (.ofFamily .labels) batch ∧
      Assignment.ComesTo executor' [] ⟨false, [], 1⟩ alone
        (answeredTwice (listed descendingBuckets)) (.ofFamily .labels) batch) ∧
    ∃ asked, (discover 10).run executor [] = (asked, .ok ["a", "b"]) ∧
      (discover 10).run executor' [] = (asked, .ok ["a", "b"]) := by
  intro executor executor' occasion alone
  have reordered : executor.Reordered executor' := fun _ _ => .ok reordered_descendingBuckets
  obtain ⟨sequential, -, discovered⟩ :=
    bucket_order_never_shows executor executor' reordered ⟨true, [], 1⟩ .labels occasion 10 []
  obtain ⟨-, inFlight, -⟩ :=
    bucket_order_never_shows executor executor' reordered ⟨false, [], 1⟩ .labels alone 10 []
  have sameEvents : List.Forall₂ FanoutEvent.Alike (answeredTwice (listed ascendingBuckets))
      (answeredTwice (listed descendingBuckets)) :=
    .cons .send (.cons (.answer 0 0 (.ok reordered_descendingBuckets)) (.cons .send
      (.cons (.answer 1 0 (.ok reordered_descendingBuckets)) .nil)))
  refine ⟨reordered, ?_, ?_, ?_⟩
  · obtain ⟨asked, batch, size, course⟩ : ∃ asked batch, batch.documents.length = 3 ∧
        (assemble ⟨true, [], 1⟩ .labels occasion).run executor [] = (asked, .ok batch) := by
      refine ⟨_, _, ?_, rfl⟩
      rw [batchOfFindings, inOrder_of_perm (.refl _) (by unfold Placed.Precedes; decide +kernel)]
      decide +kernel
    exact ⟨asked, batch, size, course, (sequential asked batch).mp course⟩
  · obtain ⟨batch, size, comesTo⟩ : ∃ batch, batch.documents.length = 2 ∧
        Assignment.ComesTo executor [] ⟨false, [], 1⟩ alone
          (answeredTwice (listed ascendingBuckets)) (.ofFamily .labels) batch := by
      refine ⟨_, ?_, .measured rfl ⟨_, rfl, rfl⟩⟩
      rw [batchOfFindings, inOrder_of_perm (.refl _) (by unfold Placed.Precedes; decide +kernel)]
      decide +kernel
    exact ⟨batch, size, comesTo, (inFlight _ _ batch sameEvents).mp comesTo⟩
  · obtain ⟨asked, found⟩ : ∃ asked, (discover 10).run executor [] = (asked, .ok ["a", "b"]) :=
      ⟨_, rfl⟩
    exact ⟨asked, found, (discovered asked _).1.mp found⟩

end Assembly

end RepoVitals

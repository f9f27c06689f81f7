import RepoVitals.Proofs.Assembly.Inquiry
/-!
Itineraries: which searches an assembly will ask, known before any answer.

Owns:
- legs, which are searches that are read together, and lists of legs;
- what it means that all legs are passed, and where a run stops otherwise: right behind a search
  that fails, or behind the last search of a leg that cannot be read;
- `Inquiry.Travels`: an inquiry that goes along an itinerary, with one rule for each way of building
  an inquiry.

The answer to a search may depend on the searches before it.  On an itinerary these are known as
well.
-/

namespace RepoVitals.Assembly

open Search (Request Response)

/-! ### Legs -/

/-- Searches, and whether their answers can be read. -/
structure Leg where
  searches : List Request
  reading : Reading Unit searches.length

/-- All searches of an itinerary, in order. -/
def searchesOf (legs : List Leg) : List Request := legs.flatMap Leg.searches

theorem searchesOf_append (first second : List Leg) :
    searchesOf (first ++ second) = searchesOf first ++ searchesOf second :=
  List.flatMap_append

/-- The searches are asked after those in `past`, and all of them are answered. -/
inductive Answered (executor : Executor) : (past searches : List Request) → List Response → Prop
  | nil {past : List Request} : Answered executor past [] []
  | cons {past rest : List Request} {request : Request} {response : Response}
      {responses : List Response}
      (here : executor past request = .ok response)
      (later : Answered executor (past ++ [request]) rest responses) :
      Answered executor past (request :: rest) (response :: responses)

/-- All searches of the leg are answered, and the answers come to this. -/
def Leg.Comes (executor : Executor) (past : List Request) (leg : Leg) (outcome : Outcome Unit) :
    Prop :=
  ∃ responses, Answered executor past leg.searches responses ∧
    leg.reading.outcome? _ (responses.map some) = some outcome

/-- All searches of all legs are answered, and all answers are read. -/
inductive Passed (executor : Executor) : (past : List Request) → List Leg → Prop
  | nil {past : List Request} : Passed executor past []
  | cons {past : List Request} {leg : Leg} {rest : List Leg}
      (here : leg.Comes executor past (.ok ()))
      (later : Passed executor (past ++ leg.searches) rest) :
      Passed executor past (leg :: rest)

/-- Where a run along the legs stops: the searches that have been asked by then, and why. -/
inductive Stops (executor : Executor) :
    (past : List Request) → List Leg → (asked : List Request) → Failure → Prop
  /-- A search fails.  The other searches of its leg are not asked, nor are those of later legs. -/
  | unanswered {past heard unasked : List Request} {request : Request} {leg : Leg}
      {rest : List Leg} {responses : List Response} {failure : Failure}
      (searches : leg.searches = heard ++ request :: unasked)
      (answered : Answered executor past heard responses)
      (fails : executor (past ++ heard) request = .error failure) :
      Stops executor past (leg :: rest) (heard ++ [request]) failure
  /-- All searches of a leg are answered, but the answers cannot be read. -/
  | unreadable {past : List Request} {leg : Leg} {rest : List Leg} {failure : Failure}
      (here : leg.Comes executor past (.error failure)) :
      Stops executor past (leg :: rest) leg.searches failure
  /-- The leg is passed, and the run stops on a later one. -/
  | later {past asked : List Request} {leg : Leg} {rest : List Leg} {failure : Failure}
      (here : leg.Comes executor past (.ok ()))
      (stops : Stops executor (past ++ leg.searches) rest asked failure) :
      Stops executor past (leg :: rest) (leg.searches ++ asked) failure

variable {executor : Executor} {past asked : List Request} {legs : List Leg} {failure : Failure}

/-! ### Passing and stopping -/

theorem Answered.unique
    {searches : List Request}
    {responses responses' : List Response}
    (answered : Answered executor past searches responses)
    (answered' : Answered executor past searches responses') :
    responses = responses' := by
  induction answered generalizing responses' with
  | nil =>
    cases answered'
    rfl
  | cons here later inductionHypothesis =>
    cases answered' with
    | cons here' later' =>
      rw [inductionHypothesis later', Except.ok.inj (here.symm.trans here')]

/-- Where a search is answered, the ones before it are too. -/
theorem Answered.of_append
    {heard rest : List Request}
    {request : Request}
    {responses : List Response}
    (answered : Answered executor past (heard ++ request :: rest) responses) :
    ∃ response, executor (past ++ heard) request = .ok response := by
  induction heard generalizing past responses with
  | nil =>
    cases answered with
    | cons here later => exact ⟨_, by rwa [List.append_nil]⟩
  | cons first others inductionHypothesis =>
    cases answered with
    | cons here later =>
      obtain ⟨response, isResponse⟩ := inductionHypothesis later
      exact ⟨response, by rwa [List.append_assoc] at isResponse⟩

theorem Leg.Comes.unique
    {leg : Leg}
    {outcome outcome' : Outcome Unit}
    (comes : leg.Comes executor past outcome)
    (comes' : leg.Comes executor past outcome') :
    outcome = outcome' := by
  obtain ⟨responses, answered, read⟩ := comes
  obtain ⟨responses', answered', read'⟩ := comes'
  rw [answered.unique answered'] at read
  exact Option.some.inj (read.symm.trans read')

/-- A run that stops does not pass all legs. -/
theorem Stops.not_passed (stops : Stops executor past legs asked failure) :
    ¬Passed executor past legs := by
  intro passed
  induction stops with
  | unanswered searches answered fails =>
    cases passed with
    | cons here later =>
      obtain ⟨responses, answered', -⟩ := here
      rw [searches] at answered'
      obtain ⟨response, isResponse⟩ := answered'.of_append
      rw [fails] at isResponse
      cases isResponse
  | unreadable here =>
    cases passed with
    | cons here' later => cases here.unique here'
  | later here stops inductionHypothesis =>
    cases passed with
    | cons here' later => exact inductionHypothesis later

theorem Stops.isPrefix (stops : Stops executor past legs asked failure) :
    asked <+: searchesOf legs := by
  induction stops with
  | unanswered searches answered fails =>
    rw [searchesOf, List.flatMap_cons, searches]
    exact ⟨_, by simp only [List.append_assoc, List.cons_append]; rfl⟩
  | unreadable here =>
    rw [searchesOf, List.flatMap_cons]
    exact List.prefix_append _ _
  | later here stops inductionHypothesis =>
    rw [searchesOf, List.flatMap_cons]
    exact (List.prefix_append_right_inj _).mpr inductionHypothesis

theorem Passed.append
    {rest : List Leg}
    (passed : Passed executor past legs)
    (later : Passed executor (past ++ searchesOf legs) rest) :
    Passed executor past (legs ++ rest) := by
  induction passed with
  | nil => simpa [searchesOf] using later
  | cons here passed inductionHypothesis =>
    refine .cons here (inductionHypothesis ?_)
    rwa [List.append_assoc]

theorem Stops.append (stops : Stops executor past legs asked failure) (rest : List Leg) :
    Stops executor past (legs ++ rest) asked failure := by
  induction stops with
  | unanswered searches answered fails => exact .unanswered searches answered fails
  | unreadable here => exact .unreadable here
  | later here stops inductionHypothesis => exact .later here inductionHypothesis

theorem Passed.stops
    {rest : List Leg}
    (passed : Passed executor past legs)
    (stops : Stops executor (past ++ searchesOf legs) rest asked failure) :
    Stops executor past (legs ++ rest) (searchesOf legs ++ asked) failure := by
  induction passed with
  | nil => simpa [searchesOf] using stops
  | cons here passed inductionHypothesis =>
    rw [searchesOf, List.flatMap_cons, List.append_assoc]
    refine .later here (inductionHypothesis ?_)
    rwa [List.append_assoc]

/-! ### Inquiries on their way -/

/-- The failure is this one, maybe seen from further out. -/
structure Recounts (failure origin : Failure) : Prop where
  cause : failure.cause = origin.cause
  circumstances : origin.circumstances <:+ failure.circumstances

theorem Recounts.refl (failure : Failure) : Recounts failure failure := ⟨rfl, List.suffix_rfl⟩

theorem Recounts.within
    {failure origin : Failure}
    (recounts : Recounts failure origin)
    (circumstance : Circumstance) :
    Recounts (failure.within circumstance) origin :=
  ⟨recounts.cause, recounts.circumstances.trans (List.suffix_cons _ _)⟩

namespace Inquiry

variable {α β : Type}

/-- Whatever was asked before, the inquiry asks the searches of the legs and comes to a result with
the property, or it asks them up to where it has to stop and recounts why. -/
def Travels (executor : Executor) (legs : List Leg) (inquiry : Inquiry α) (property : α → Prop) :
    Prop :=
  ∀ past,
    (∃ result, inquiry.run executor past = (past ++ searchesOf legs, .ok result) ∧
      Passed executor past legs ∧ property result) ∨
    ∃ asked failure origin, inquiry.run executor past = (past ++ asked, .error failure) ∧
      Stops executor past legs asked origin ∧ Recounts failure origin

namespace Travels

theorem pure {result : α} {property : α → Prop} (holds : property result) :
    (Pure.pure result : Inquiry α).Travels executor [] property := by
  intro past
  refine .inl ⟨result, ?_, .nil, holds⟩
  show (past, Except.ok result) = (past ++ [], Except.ok result)
  rw [List.append_nil]

theorem imp
    {inquiry : Inquiry α}
    {before after : α → Prop}
    (travels : inquiry.Travels executor legs before)
    (weaker : ∀ result, before result → after result) :
    inquiry.Travels executor legs after := by
  intro past
  refine (travels past).imp_left ?_
  rintro ⟨result, course, passed, holds⟩
  exact ⟨result, course, passed, weaker result holds⟩

theorem bind
    {legs' : List Leg}
    {inquiry : Inquiry α}
    {next : α → Inquiry β}
    {between : α → Prop}
    {property : β → Prop}
    (first : inquiry.Travels executor legs between)
    (second : ∀ result, between result → (next result).Travels executor legs' property) :
    (inquiry >>= next).Travels executor (legs ++ legs') property := by
  intro past
  rw [run_bind]
  obtain ⟨result, course, passed, holds⟩ | ⟨asked, failure, origin, course, stops, recounts⟩ :=
    first past
  · rw [course]
    obtain ⟨final, course', passed', holds'⟩ | ⟨asked, failure, origin, course', stops, recounts⟩ :=
      second result holds (past ++ searchesOf legs)
    · refine .inl ⟨final, ?_, passed.append passed', holds'⟩
      show (next result).run executor (past ++ searchesOf legs) = _
      rw [course', searchesOf_append, List.append_assoc]
    · refine .inr ⟨searchesOf legs ++ asked, failure, origin, ?_, passed.stops stops, recounts⟩
      show (next result).run executor (past ++ searchesOf legs) = _
      rw [course', List.append_assoc]
  · rw [course]
    exact .inr ⟨asked, failure, origin, rfl, stops.append legs', recounts⟩

theorem map
    {inquiry : Inquiry α}
    {change : α → β}
    {between : α → Prop}
    {property : β → Prop}
    (travels : inquiry.Travels executor legs between)
    (changed : ∀ result, between result → property (change result)) :
    (inquiry >>= fun result => Pure.pure (change result)).Travels executor legs property := by
  have both := travels.bind fun result holds => Travels.pure (changed result holds)
  rwa [List.append_nil] at both

theorem within
    {inquiry : Inquiry α}
    {property : α → Prop}
    (travels : inquiry.Travels executor legs property)
    (circumstance : Circumstance) :
    (inquiry.within circumstance).Travels executor legs property := by
  intro past
  rw [run_within]
  obtain ⟨result, course, passed, holds⟩ | ⟨asked, failure, origin, course, stops, recounts⟩ :=
    travels past
  · rw [course]
    exact .inl ⟨result, rfl, passed, holds⟩
  · rw [course]
    exact .inr ⟨asked, _, origin, rfl, stops, recounts.within circumstance⟩

/-- One inquiry after the other goes along one itinerary after the other. -/
theorem forEach
    {items : List β}
    {inquiryOf : β → Inquiry α}
    {legsOf : β → List Leg}
    {property : β → α → Prop}
    (each : ∀ item ∈ items, (inquiryOf item).Travels executor (legsOf item) (property item)) :
    (Inquiry.forEach items inquiryOf).Travels executor (items.flatMap legsOf)
      (List.Forall₂ property items) := by
  induction items with
  | nil => exact Travels.pure List.Forall₂.nil
  | cons item rest inductionHypothesis =>
    have later := inductionHypothesis fun item isLater => each item (List.mem_cons_of_mem _ isLater)
    rw [List.flatMap_cons]
    exact (each item List.mem_cons_self).bind fun result holds =>
      later.map fun results hold => List.Forall₂.cons holds hold

end Travels

/-! ### Searches that are read together -/

theorem outcome?_map (change : α → β) :
    ∀ (count : Nat) (reading : Reading α count) (answers : List (Option Response)),
      (reading.map change).outcome? count answers =
        (reading.outcome? count answers).map (Except.map change)
  | 0, _, _ => rfl
  | count + 1, reading, some answer :: rest => outcome?_map change count (reading answer) rest
  | _ + 1, _, none :: _ => rfl
  | _ + 1, _, [] => rfl

theorem run_search (request : Request) (past : List Request) :
    (search request).run executor past = (past ++ [request], executor past request) := by
  show (ofOutcome (executor past request)).run executor (past ++ [request]) = _
  cases executor past request <;> rfl

/-- Searches are asked up to the first failure; if all are answered, the answers are read. -/
theorem run_ofSearches
    (searches : List Request)
    (reading : Reading α searches.length)
    (past : List Request) :
    (∃ responses outcome, Answered executor past searches responses ∧
      reading.outcome? _ (responses.map some) = some outcome ∧
        (ofSearches searches reading).run executor past = (past ++ searches, outcome)) ∨
    ∃ heard request unasked responses failure, searches = heard ++ request :: unasked ∧
      Answered executor past heard responses ∧
        executor (past ++ heard) request = .error failure ∧
          (ofSearches searches reading).run executor past =
            (past ++ (heard ++ [request]), .error failure) := by
  induction searches generalizing past with
  | nil =>
    refine .inl ⟨[], reading, .nil, rfl, ?_⟩
    rw [List.append_nil]
    cases reading <;> rfl
  | cons search rest inductionHypothesis =>
    rw [ofSearches, run_bind, run_search]
    cases here : executor past search with
    | error failure =>
      exact .inr ⟨[], search, rest, [], failure, rfl, .nil, by rwa [List.append_nil], rfl⟩
    | ok response =>
      obtain ⟨responses, outcome, answered, read, course⟩ |
          ⟨heard, request, unasked, responses, failure, rfl, answered, fails, course⟩ :=
        inductionHypothesis (reading response) (past ++ [search])
      · refine .inl ⟨response :: responses, outcome, .cons here answered, read, ?_⟩
        rw [List.append_assoc] at course
        exact course
      · refine .inr ⟨search :: heard, request, unasked, response :: responses, failure, rfl,
          .cons here answered, ?_, ?_⟩
        · rwa [List.append_assoc] at fails
        · rw [List.append_assoc] at course
          exact course

end Inquiry

/-! ### Volleys -/

variable {α : Type}

/-- The leg of a volley. -/
def Leg.ofVolley (volley : Volley α) : Leg :=
  ⟨volley.searches, volley.reading.map fun _ => ()⟩

theorem Reading.map_forget {β : Type} (change : α → β) :
    ∀ (count : Nat) (reading : Reading α count),
      (reading.map change).map (fun _ => ()) = reading.map fun _ => ()
  | 0, .ok _ => rfl
  | 0, .error _ => rfl
  | count + 1, reading => funext fun answer => map_forget change count (reading answer)

theorem Leg.ofVolley_map {β : Type} (change : α → β) (volley : Volley α) :
    Leg.ofVolley (volley.map change) = Leg.ofVolley volley :=
  congrArg (Leg.mk volley.searches) (Reading.map_forget change _ volley.reading)

/-- A volley goes along its leg. -/
theorem Volley.travels (volley : Volley α) :
    volley.inquiry.Travels executor [Leg.ofVolley volley] (fun _ => True) := by
  refine Inquiry.Travels.within (fun past => ?_) volley.circumstance
  obtain ⟨responses, outcome, answered, read, course⟩ |
      ⟨heard, request, unasked, responses, failure, searches, answered, fails, course⟩ :=
    Inquiry.run_ofSearches volley.searches volley.reading past
  · have comes : (Leg.ofVolley volley).Comes executor past (outcome.map fun _ => ()) := by
      refine ⟨responses, answered, ?_⟩
      rw [Leg.ofVolley, Inquiry.outcome?_map, read]
      rfl
    rw [course]
    cases outcome with
    | ok result =>
      refine .inl ⟨result, ?_, .cons comes .nil, trivial⟩
      rw [searchesOf, List.flatMap_singleton]
      rfl
    | error failure => exact .inr ⟨_, failure, failure, rfl, .unreadable comes, .refl failure⟩
  · rw [course]
    exact .inr ⟨_, failure, failure, rfl, .unanswered searches answered fails, .refl failure⟩

end RepoVitals.Assembly

import RepoVitals.Proofs.Assembly.Culprits
import RepoVitals.Proofs.Assembly.Findings
/-!
Where the results of volleys come from.

Owns:
- results of a run that works on one volley after the other: each is read from the answers to the
  searches of one volley, which stand next to each other among all searches asked;
- results of a fan-out: each is read from answers that were heard for one volley; one lemma for an
  event and one for a sequence.

An executor may give the same search different answers, and so may the events of a fan-out.  A
result therefore tells which answers it was read from, and not only which searches.
-/

namespace RepoVitals.Assembly

open Search (Request Response)

variable {α β : Type}

theorem Volley.exists_reads_of_map
    {volley : Volley α}
    {change : α → β}
    {responses : List Response}
    {result : β}
    (reads : (volley.map change).Reads responses result) :
    ∃ before, volley.Reads responses before ∧ change before = result := by
  unfold Reads Volley.map at reads
  rw [Inquiry.outcome?_map] at reads
  obtain ⟨outcome, isOutcome, isResult⟩ := Option.map_eq_some_iff.mp reads
  obtain ⟨before, rfl, isChanged⟩ := Outcome.exists_of_map_eq_ok isResult
  exact ⟨before, isOutcome, isChanged⟩

/-! ### One volley after the other -/

/-- A run that went on after the searches in `past`, and has asked those in `asked` by now, has
asked the given ones one after the other and got these answers. -/
def HeardWithin (executor : Executor) (past asked searches : List Request)
    (responses : List Response) : Prop :=
  ∃ before after, asked = past ++ before ++ searches ++ after ∧
    Answered executor (past ++ before) searches responses

variable {executor : Executor}

namespace Inquiry

theorem isPrefix_run (inquiry : Inquiry α) (past : List Request) :
    past <+: (inquiry.run executor past).1 := by
  induction inquiry generalizing past with
  | done result => exact List.prefix_rfl
  | failed failure => exact List.prefix_rfl
  | ask request resume inductionHypothesis =>
    exact (List.prefix_append past [request]).trans (inductionHypothesis _ _)

/-- Every result of one inquiry after the other is that of a run of one of them. -/
theorem exists_run_of_forEach
    {items : List β}
    {inquiryOf : β → Inquiry α}
    {past asked : List Request}
    {results : List α}
    (course : (forEach items inquiryOf).run executor past = (asked, .ok results)) :
    ∀ result ∈ results, ∃ item ∈ items, ∃ start finish, past <+: start ∧
      (inquiryOf item).run executor start = (finish, .ok result) ∧ finish <+: asked := by
  induction items generalizing past results with
  | nil =>
    cases course
    exact fun result member => absurd member List.not_mem_nil
  | cons item rest inductionHypothesis =>
    rw [forEach, run_bind] at course
    cases here : (inquiryOf item).run executor past with
    | mk between outcome =>
      rw [here] at course
      cases outcome with
      | error failure => cases course
      | ok first =>
        dsimp only at course
        rw [run_bind] at course
        cases later : (forEach rest inquiryOf).run executor between with
        | mk onwards outcome =>
          rw [later] at course
          cases outcome with
          | error failure => cases course
          | ok others =>
            cases course
            have onward : past <+: between := by
              have extended : past <+: ((inquiryOf item).run executor past).1 := isPrefix_run _ _
              rwa [here] at extended
            have further : between <+: asked := by
              have extended : between <+: ((forEach rest inquiryOf).run executor between).1 :=
                isPrefix_run _ _
              rwa [later] at extended
            intro result member
            rcases List.mem_cons.mp member with rfl | isLater
            · exact ⟨item, List.mem_cons_self, past, between, List.prefix_rfl, here, further⟩
            · obtain ⟨item', isItem, start, finish, isStart, isRun, isFinish⟩ :=
                inductionHypothesis later result isLater
              exact ⟨item', List.mem_cons_of_mem _ isItem, start, finish, onward.trans isStart,
                isRun, isFinish⟩

end Inquiry

namespace Volley

variable {past asked : List Request} {volleys : List (Volley α)}

theorem exists_reads_of_run
    {volley : Volley α}
    {result : α}
    (course : volley.inquiry.run executor past = (asked, .ok result)) :
    ∃ responses, asked = past ++ volley.searches ∧
      Answered executor past volley.searches responses ∧ volley.Reads responses result := by
  rw [inquiry, Inquiry.run_within] at course
  obtain ⟨responses, outcome, answered, read, course'⟩ |
      ⟨_, _, _, _, failure, _, _, _, course'⟩ :=
    @Inquiry.run_ofSearches executor _ volley.searches volley.reading past
  · rw [course'] at course
    obtain ⟨rfl, isResult⟩ := Prod.mk.inj course
    have isOk := eq_ok_of_mapError_eq_ok isResult
    exact ⟨responses, rfl, answered, read.trans (congrArg some isOk)⟩
  · rw [course'] at course
    cases (Prod.mk.inj course).2

/-- A run of one volley after the other reads every result from the answers to one of them. -/
theorem heardWithin_of_inquireAll
    {results : List α}
    (course : (inquireAll volleys).run executor past = (asked, .ok results)) :
    ∀ result ∈ results, ∃ volley ∈ volleys, ∃ responses,
      HeardWithin executor past asked volley.searches responses ∧
        volley.Reads responses result := by
  intro result isResult
  obtain ⟨volley, isVolley, start, finish, ⟨before, isStart⟩, here, ⟨after, isFinish⟩⟩ :=
    Inquiry.exists_run_of_forEach course result isResult
  obtain ⟨responses, isAsked, answered, reads⟩ := exists_reads_of_run here
  refine ⟨volley, isVolley, responses, ⟨before, after, ?_, ?_⟩, reads⟩
  · rw [← isFinish, isAsked, isStart]
  · rwa [isStart]

end Volley

/-! ### Fan-outs -/

/-- The answers to the searches of the volley at a position are among the events. -/
structure HeardAmong (events : List FanoutEvent) (position : Nat) (searches : List Request)
    (responses : List Response) : Prop where
  all : responses.length = searches.length
  heard : ∀ search response, responses[search]? = some response →
    .answer position search (.ok response) ∈ events

variable {volleys : List (Volley α)} {events : List FanoutEvent}

theorem HeardAmong.mono
    {position : Nat}
    {searches : List Request}
    {responses : List Response}
    {later : List FanoutEvent}
    (heard : HeardAmong events position searches responses) :
    HeardAmong (events ++ later) position searches responses where
  all := heard.all
  heard := fun search response isResponse =>
    List.mem_append_left _ (heard.heard search response isResponse)

/-- Every result is read from answers that have been heard. -/
def AllRead (volleys : List (Volley α)) (events : List FanoutEvent) (results : List α) : Prop :=
  ∀ result ∈ results, ∃ (position : Nat) (volley : Volley α) (responses : List Response),
    volleys[position]? = some volley ∧ HeardAmong events position volley.searches responses ∧
      volley.Reads responses result

theorem AllRead.mono
    {results : List α}
    {later : List FanoutEvent}
    (read : AllRead volleys events results) :
    AllRead volleys (events ++ later) results := by
  intro result member
  obtain ⟨position, volley, responses, found, heard, reads⟩ := read result member
  exact ⟨position, volley, responses, found, heard.mono, reads⟩

namespace Fanout

/-- A volley is completed only when all its answers have been heard. -/
theorem allRead_place
    {fanout : Fanout α}
    {flying : UnderWay α}
    (read : AllRead volleys events fanout.completed)
    (holds : flying.Holds volleys events) :
    AllRead volleys events (fanout.place flying).completed := by
  unfold Fanout.place
  split
  · exact read
  · rename_i result isResult
    obtain ⟨outcome, isRead, isOk⟩ := Option.map_eq_some_iff.mp isResult
    have isOutcome := eq_ok_of_mapError_eq_ok isOk
    subst isOutcome
    obtain ⟨responses, areResponses⟩ := Reading.exists_responses holds.whole isRead
    have all : responses.length = flying.volley.searches.length := by
      rw [← List.length_map some, ← areResponses]
      exact holds.whole
    have heard : ∀ search response, responses[search]? = some response →
        .answer flying.position search (.ok response) ∈ events := by
      intro search response isResponse
      apply holds.heard
      rw [areResponses, List.getElem?_map, isResponse, Option.map_some]
    have reads : flying.volley.Reads responses result := by rwa [areResponses] at isRead
    intro other isCompleted
    rcases List.mem_append.mp isCompleted with isEarlier | isNew
    · exact read other isEarlier
    · rw [List.mem_singleton.mp isNew]
      exact ⟨flying.position, flying.volley, responses, holds.found, ⟨all, heard⟩, reads⟩
  · exact read

theorem allRead_step
    {before after : Fanout α}
    {event : FanoutEvent}
    (traces : before.Traces volleys events)
    (read : AllRead volleys events before.completed)
    (stepped : before.step event = some after) :
    AllRead volleys (events ++ [event]) after.completed := by
  cases stepped_of_step stepped with
  | refused position search flying origin isFound missing => exact read.mono
  | sent volley rest isFirst room =>
    cases traces with
    | failed _ _ _ _ noneWaits =>
      rw [noneWaits] at isFirst
      cases isFirst
    | running unfailed waits flies =>
      exact allRead_place read.mono (UnderWay.holds_of_sent (getElem?_sent waits isFirst))
  | heard position search flying response isFound missing =>
    cases traces with
    | failed _ _ _ _ _ noneFlies =>
      rw [noneFlies] at isFound
      cases isFound
    | running unfailed waits flies =>
      have same : flying.position = position := by simpa using List.find?_some isFound
      subst same
      have holds := flies flying (List.mem_of_find?_eq_some isFound)
      exact allRead_place read.mono (holds.hear search response)

theorem allRead_exec
    {before after : Fanout α}
    {later : List FanoutEvent}
    (traces : before.Traces volleys events)
    (read : AllRead volleys events before.completed)
    (course : before.exec later = some after) :
    AllRead volleys (events ++ later) after.completed := by
  induction later generalizing before events with
  | nil =>
    cases course
    rwa [List.append_nil]
  | cons event rest inductionHypothesis =>
    obtain ⟨next, stepped, course⟩ := Option.bind_eq_some_iff.mp course
    have readOn :=
      inductionHypothesis (traces.step stepped) (allRead_step traces read stepped) course
    rwa [List.append_assoc] at readOn

/-- A fan-out reads all its results from answers that it has heard. -/
theorem allRead_of_exec
    {limit : Nat}
    {after : Fanout α}
    (course : (new limit volleys).exec events = some after) :
    AllRead volleys events after.completed := by
  have fresh : (new limit volleys).Traces volleys [] := .running rfl rfl nofun
  have nothing : AllRead volleys [] (new limit volleys).completed :=
    fun result member => absurd member List.not_mem_nil
  exact allRead_exec fresh nothing course

end Fanout

end RepoVitals.Assembly

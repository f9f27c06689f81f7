import RepoVitals.Assembly.Fanout
import RepoVitals.Proofs.Assembly.Steady
import Mathlib.Data.List.Nodup
import Mathlib.Data.List.Perm.Basic
/-!
Fan-outs where the same search always gets the same answer.

Owns:
- `Fanout.Stepped` and `Fanout.Turned`: everything that one event and one turn can do;
- `Fanout.Tracks`: at any time every volley is completed with its own result, under way or waiting,
  or else the fan-out is over because a volley fails; one lemma for a turn and one for a sequence;
- `Fanout.work`, which every turn lowers, and the turn that is possible as long as something is
  left.

Does not own what is made of the results.
-/

namespace RepoVitals.Assembly

open Search (Request Response)

variable {α : Type} {answer : Request → Outcome Response}

namespace Fanout

/-! ### Events -/

/-- Everything that one event can do. -/
inductive Stepped (before : Fanout α) : FanoutEvent → Fanout α → Prop where
  | sent (volley : Volley α) (rest : List (Volley α))
      (waits : before.waiting = volley :: rest)
      (room : before.underWay.length < before.limit) :
      Stepped before .send
        (place { before with waiting := rest, sent := before.sent + 1 }
          ⟨before.sent, volley, volley.searches.map (fun _ => none)⟩)
  | heard (position search : Nat) (flying : UnderWay α) (response : Response)
      (found : before.underWay.find? (fun volley => volley.position = position) = some flying)
      (missing : flying.answers[search]? = some none) :
      Stepped before (.answer position search (.ok response))
        ((before.withdraw position).place
          { flying with answers := flying.answers.set search (some response) })
  | refused (position search : Nat) (flying : UnderWay α) (failure : Failure)
      (found : before.underWay.find? (fun volley => volley.position = position) = some flying)
      (missing : flying.answers[search]? = some none) :
      Stepped before (.answer position search (.error failure))
        (before.fail (failure.within flying.volley.circumstance))

theorem stepped_of_step
    {before after : Fanout α}
    {event : FanoutEvent}
    (stepped : before.step event = some after) :
    Stepped before event after := by
  cases event with
  | send =>
    simp only [step] at stepped
    split at stepped
    · cases stepped
    · rename_i volley rest waits
      split at stepped
      · rename_i room
        cases stepped
        exact .sent volley rest waits room
      · cases stepped
  | answer position search outcome =>
    simp only [step, Option.bind_eq_bind] at stepped
    obtain ⟨flying, found, stepped⟩ := Option.bind_eq_some_iff.mp stepped
    split at stepped
    · rename_i response missing _
      cases stepped
      exact .heard position search flying response found missing
    · rename_i failure missing _
      cases stepped
      exact .refused position search flying failure found missing
    · cases stepped

/-! ### Turns -/

/-- Everything that one turn can do. -/
inductive Turned (answer : Request → Outcome Response) (before : Fanout α) : Fanout α → Prop where
  | sent (volley : Volley α) (rest : List (Volley α))
      (waits : before.waiting = volley :: rest)
      (room : before.underWay.length < before.limit) :
      Turned answer before
        (place { before with waiting := rest, sent := before.sent + 1 }
          ⟨before.sent, volley, volley.searches.map (fun _ => none)⟩)
  | heard (flying : UnderWay α) (index : Nat) (request : Request) (response : Response)
      (aloft : flying ∈ before.underWay)
      (asked : flying.volley.searches[index]? = some request)
      (missing : flying.answers[index]? = some none)
      (answered : answer request = .ok response) :
      Turned answer before
        ((before.withdraw flying.position).place
          { flying with answers := flying.answers.set index (some response) })
  | refused (flying : UnderWay α) (request : Request) (failure : Failure)
      (aloft : flying ∈ before.underWay)
      (asked : request ∈ flying.volley.searches)
      (answered : answer request = .error failure) :
      Turned answer before (before.fail (failure.within flying.volley.circumstance))

theorem turned_of_take
    {before after : Fanout α}
    {turn : FanoutTurn}
    (taken : before.take answer turn = some after) :
    Turned answer before after := by
  cases turn with
  | send =>
    have stepped : before.step .send = some after := taken
    cases stepped_of_step stepped with
    | sent volley rest waits room => exact .sent volley rest waits room
  | hear position search =>
    simp only [take, Option.bind_eq_bind] at taken
    obtain ⟨flying, found, taken⟩ := Option.bind_eq_some_iff.mp taken
    obtain ⟨request, asked, taken⟩ := Option.bind_eq_some_iff.mp taken
    have aloft := List.mem_of_find?_eq_some found
    have same : flying.position = position := by simpa using List.find?_some found
    generalize answered : answer request = outcome at taken
    cases stepped_of_step taken with
    | heard _ _ flying' response found' missing =>
      cases Option.some.inj (found.symm.trans found')
      subst same
      exact .heard flying search request response aloft asked missing answered
    | refused _ _ flying' failure found' missing =>
      cases Option.some.inj (found.symm.trans found')
      exact .refused flying request failure aloft (List.mem_of_getElem? asked) answered

end Fanout

/-! ### Where every volley is -/

/-- The answers of the volley that have come are the steady ones, and some answer is missing. -/
structure UnderWay.Awaits (answer : Request → Outcome Response) (flying : UnderWay α) : Prop where
  answered : Inquiry.Answers answer flying.volley.searches flying.answers
  unknown : flying.volley.outcome? flying.answers = none

namespace Fanout

variable {volleys : List (Volley α)}

/-- No volley has failed, and each is completed, under way, waiting or among those set apart. -/
structure Accounts (answer : Request → Outcome Response) (volleys apart : List (Volley α))
    (fanout : Fanout α) : Prop where
  unfailed : fanout.failure = none
  limited : 0 < fanout.limit
  unrepeated : (fanout.underWay.map UnderWay.position).Nodup
  numbered : ∀ flying ∈ fanout.underWay, flying.position < fanout.sent
  awaits : ∀ flying ∈ fanout.underWay, flying.Awaits answer
  whole : ∃ finished : List (Volley α),
    List.Forall₂ (fun volley result => volley.resultBy answer = .ok result) finished
      fanout.completed ∧
    (finished ++ apart ++ fanout.underWay.map UnderWay.volley ++ fanout.waiting).Perm volleys

/-- All volleys are accounted for, or one of them fails and nothing is left to do. -/
inductive Tracks (answer : Request → Outcome Response) (volleys : List (Volley α))
    (fanout : Fanout α) : Prop where
  | running (accounts : fanout.Accounts answer volleys [])
  | failed (volley : Volley α) (failure reported : Failure)
      (member : volley ∈ volleys)
      (fails : volley.resultBy answer = .error failure)
      (ended : fanout.failure = some reported)
      (noneWaits : fanout.waiting = [])
      (noneFlies : fanout.underWay = [])

theorem tracks_new (limit : Nat) (volleys : List (Volley α)) :
    (Fanout.new limit volleys).Tracks answer volleys := by
  apply Tracks.running
  refine ⟨rfl, ?_, List.nodup_nil, ?_, ?_, [], List.Forall₂.nil, List.Perm.refl _⟩
  · show 0 < max 1 limit
    omega
  · intro flying member
    cases member
  · intro flying member
    cases member

/-- A volley that was set apart gets its place. -/
theorem Accounts.place
    {fanout : Fanout α}
    {flying : UnderWay α}
    (accounts : fanout.Accounts answer volleys [flying.volley])
    (answered : Inquiry.Answers answer flying.volley.searches flying.answers)
    (numbered : flying.position < fanout.sent)
    (unused : flying.position ∉ fanout.underWay.map UnderWay.position) :
    (fanout.place flying).Tracks answer volleys := by
  obtain ⟨finished, results, whole⟩ := accounts.whole
  have isVolley : flying.volley ∈ volleys := by
    apply whole.subset
    simp
  unfold Fanout.place
  cases known : flying.volley.outcome? flying.answers with
  | none =>
    apply Tracks.running
    refine ⟨accounts.unfailed, accounts.limited, ?_, ?_, ?_, finished, results, ?_⟩
    · rw [List.map_append, List.perm_append_comm.nodup_iff]
      exact List.nodup_cons.mpr ⟨unused, accounts.unrepeated⟩
    · intro other member
      rcases List.mem_append.mp member with earlier | same
      · exact accounts.numbered other earlier
      · rwa [List.mem_singleton.mp same]
    · intro other member
      rcases List.mem_append.mp member with earlier | same
      · exact accounts.awaits other earlier
      · rw [List.mem_singleton.mp same]
        exact ⟨answered, known⟩
    · -- The volley goes from those set apart to the end of those under way.
      refine List.Perm.trans ?_ whole
      simp only [List.map_append, List.append_nil, List.append_assoc]
      apply List.Perm.append_left
      rw [← List.append_assoc, ← List.append_assoc]
      exact List.perm_append_comm.append_right _
  | some outcome =>
    have isResult := Volley.resultBy_of_outcome? answered known
    cases outcome with
    | ok result =>
      apply Tracks.running
      refine ⟨accounts.unfailed, accounts.limited, accounts.unrepeated, accounts.numbered,
        accounts.awaits, finished ++ [flying.volley], ?_, ?_⟩
      · exact List.rel_append results (List.Forall₂.cons isResult List.Forall₂.nil)
      · simpa using whole
    | error failure => exact .failed _ _ _ isVolley isResult rfl rfl rfl

/-- A volley is withdrawn by its position, which no other volley has. -/
theorem Accounts.perm_withdraw
    {fanout : Fanout α}
    {flying : UnderWay α}
    (accounts : fanout.Accounts answer volleys [])
    (aloft : flying ∈ fanout.underWay) :
    fanout.underWay.Perm (flying :: (fanout.withdraw flying.position).underWay) := by
  obtain ⟨earlier, later, isList⟩ := List.append_of_mem aloft
  have unrepeated := accounts.unrepeated
  rw [isList, List.map_append, List.map_cons, List.nodup_middle, List.nodup_cons,
    ← List.map_append] at unrepeated
  have others : ∀ other ∈ earlier ++ later,
      decide (other.position ≠ flying.position) = true := by
    intro other member
    apply decide_eq_true
    intro same
    apply unrepeated.1
    rw [← same]
    exact List.mem_map_of_mem member
  have isRest : (fanout.withdraw flying.position).underWay = earlier ++ later := by
    show fanout.underWay.filter _ = _
    rw [isList, List.filter_append, List.filter_cons_of_neg (by simp), ← List.filter_append,
      List.filter_eq_self.mpr others]
  rw [isRest, isList]
  exact List.perm_middle

theorem Accounts.withdraw
    {fanout : Fanout α}
    {flying : UnderWay α}
    (accounts : fanout.Accounts answer volleys [])
    (aloft : flying ∈ fanout.underWay) :
    (fanout.withdraw flying.position).Accounts answer volleys [flying.volley] := by
  have kept : (fanout.withdraw flying.position).underWay.Sublist fanout.underWay :=
    List.filter_sublist
  obtain ⟨finished, results, whole⟩ := accounts.whole
  refine ⟨accounts.unfailed, accounts.limited, (kept.map _).nodup accounts.unrepeated, ?_, ?_,
    finished, results, ?_⟩
  · exact fun other member => accounts.numbered other (kept.subset member)
  · exact fun other member => accounts.awaits other (kept.subset member)
  · refine List.Perm.trans ?_ whole
    simp only [List.append_nil, List.append_assoc]
    apply List.Perm.append_left
    rw [← List.append_assoc]
    exact ((accounts.perm_withdraw aloft).map UnderWay.volley).symm.append_right _

/-- One turn leaves every volley accounted for. -/
theorem Tracks.turned
    {before after : Fanout α}
    (tracks : before.Tracks answer volleys)
    (turned : Turned answer before after) :
    after.Tracks answer volleys := by
  cases tracks with
  | failed _ _ _ _ _ _ noneWaits noneFlies =>
    -- A failure leaves nothing behind that could take a turn.
    exfalso
    cases turned with
    | sent _ _ waits => simp [noneWaits] at waits
    | heard _ _ _ _ aloft => simp [noneFlies] at aloft
    | refused _ _ _ aloft => simp [noneFlies] at aloft
  | running accounts =>
    cases turned with
    | sent volley rest waits room =>
      obtain ⟨finished, results, whole⟩ := accounts.whole
      apply Accounts.place
      · refine ⟨accounts.unfailed, accounts.limited, accounts.unrepeated, ?_, accounts.awaits,
          finished, results, ?_⟩
        · exact fun flying member => Nat.lt_succ_of_lt (accounts.numbered flying member)
        · rw [waits] at whole
          refine List.Perm.trans ?_ whole
          simp only [List.append_nil, List.append_assoc, List.singleton_append]
          apply List.Perm.append_left
          exact List.perm_middle.symm
      · apply List.forall₂_map_right_iff.mpr
        exact List.forall₂_same.mpr fun _ _ _ none => absurd none (Option.some_ne_none _).symm
      · exact Nat.lt_succ_self _
      · -- Positions are given out in order, so the next one is new.
        intro used
        obtain ⟨flying, member, same⟩ := List.mem_map.mp used
        exact Nat.lt_irrefl _ (same ▸ accounts.numbered flying member)
    | heard flying index request response aloft asked missing answered =>
      have apart := accounts.withdraw aloft
      apply Accounts.place
      · exact apart
      · exact (accounts.awaits flying aloft).answered.hear asked answered
      · exact accounts.numbered flying aloft
      · simp [Fanout.withdraw]
    | refused flying request failure aloft asked answered =>
      obtain ⟨finished, results, whole⟩ := accounts.whole
      obtain ⟨first, isFirst⟩ := Volley.exists_failure asked answered
      refine .failed flying.volley first _ ?_ isFirst rfl rfl rfl
      apply whole.subset
      simp only [List.mem_append]
      exact .inl (.inr (List.mem_map_of_mem aloft))

theorem tracks_of_follow
    {before after : Fanout α}
    {turns : List FanoutTurn}
    (tracks : before.Tracks answer volleys)
    (followed : before.follow answer turns = some after) :
    after.Tracks answer volleys := by
  induction turns generalizing before with
  | nil =>
    cases followed
    exact tracks
  | cons turn rest inductionHypothesis =>
    obtain ⟨next, taken, followed⟩ := Option.bind_eq_some_iff.mp followed
    exact inductionHypothesis (tracks.turned (turned_of_take taken)) followed

/-! ### The end -/

/-- A fan-out that is over has all results, in some order, or one of its volleys fails. -/
theorem Tracks.outcome
    {fanout : Fanout α}
    {outcome : Outcome (List α)}
    (tracks : fanout.Tracks answer volleys)
    (ended : fanout.outcome? = some outcome) :
    (∃ results completed, outcome = .ok completed ∧ completed.Perm results ∧
        List.Forall₂ (fun volley result => volley.resultBy answer = .ok result) volleys results) ∨
      ∃ reported failure, outcome = .error reported ∧
        ∃ volley ∈ volleys, volley.resultBy answer = .error failure := by
  cases tracks with
  | failed volley failure reported member fails isFailure =>
    rw [outcome?, isFailure] at ended
    exact .inr ⟨reported, failure, (Option.some.inj ended).symm, volley, member, fails⟩
  | running accounts =>
    rw [outcome?, accounts.unfailed] at ended
    simp only [List.isEmpty_iff] at ended
    split at ended
    · rename_i done
      obtain ⟨finished, results, whole⟩ := accounts.whole
      rw [done.1, done.2] at whole
      simp only [List.map_nil, List.append_nil] at whole
      obtain ⟨ordered, inOrder, same⟩ := List.perm_comp_forall₂ whole.symm results
      exact .inl ⟨ordered, fanout.completed, (Option.some.inj ended).symm, same.symm, inOrder⟩
    · cases ended

/-! ### Getting on -/

/-- As long as a fan-out is not over, some turn is possible. -/
theorem Tracks.getsOn
    {fanout : Fanout α}
    (tracks : fanout.Tracks answer volleys)
    (unfinished : fanout.outcome? = none) :
    ∃ turn, (fanout.take answer turn).isSome = true := by
  cases tracks with
  | failed _ _ _ _ _ isFailure =>
    rw [outcome?, isFailure] at unfinished
    cases unfinished
  | running accounts =>
    cases airborne : fanout.underWay with
    | nil =>
      cases waits : fanout.waiting with
      | nil => simp [outcome?, accounts.unfailed, airborne, waits] at unfinished
      | cons volley rest =>
        have room : fanout.underWay.length < fanout.limit := by
          simpa [airborne] using accounts.limited
        refine ⟨.send, ?_⟩
        simp only [take, step, waits, if_pos room, Option.isSome_some]
    | cons flying others =>
      have awaits : flying.Awaits answer := by
        apply accounts.awaits
        simp [airborne]
      obtain ⟨index, inside, missing⟩ := List.getElem_of_mem
        (Volley.missing_of_outcome? awaits.answered awaits.unknown)
      have asked : index < flying.volley.searches.length := by
        rwa [awaits.answered.length_eq]
      refine ⟨.hear flying.position index, ?_⟩
      cases answered : answer flying.volley.searches[index] <;>
        simp [take, step, airborne, asked, inside, missing, answered]

/-- What is left to do: volleys that wait, with their searches, and answers that are missing. -/
def work (fanout : Fanout α) : Nat :=
  (fanout.waiting.flatMap Volley.searches).length + fanout.waiting.length +
    fanout.searchesInFlight

theorem work_place_le (fanout : Fanout α) (flying : UnderWay α) :
    (fanout.place flying).work ≤ fanout.work + flying.answers.countP Option.isNone := by
  unfold place
  split
  · simp [work, searchesInFlight]
    omega
  · exact Nat.le_add_right _ _
  · simp [work, searchesInFlight, fail]

theorem Accounts.searchesInFlight_withdraw
    {fanout : Fanout α}
    {flying : UnderWay α}
    (accounts : fanout.Accounts answer volleys [])
    (aloft : flying ∈ fanout.underWay) :
    fanout.searchesInFlight =
      flying.answers.countP Option.isNone + (fanout.withdraw flying.position).searchesInFlight := by
  have others := (accounts.perm_withdraw aloft).flatMap_right UnderWay.answers
  rw [searchesInFlight, others.countP_eq, List.flatMap_cons, List.countP_append]
  rfl

theorem Tracks.work_lt
    {before after : Fanout α}
    (tracks : before.Tracks answer volleys)
    (turned : Turned answer before after) :
    after.work < before.work := by
  cases turned with
  | sent volley rest waits room =>
    refine Nat.lt_of_le_of_lt (work_place_le _ _) ?_
    have noneHeard : (volley.searches.map fun _ => (none : Option Response)).countP Option.isNone ≤
        volley.searches.length := by
      rw [← List.length_map]
      exact List.countP_le_length
    simp only [work, searchesInFlight, waits, List.flatMap_cons, List.length_append,
      List.length_cons]
    omega
  | heard flying index request response aloft asked missing answered =>
    cases tracks with
    | failed _ _ _ _ _ _ _ noneFlies => simp [noneFlies] at aloft
    | running accounts =>
      refine Nat.lt_of_le_of_lt (work_place_le _ _) ?_
      obtain ⟨inside, isMissing⟩ := List.getElem?_eq_some_iff.mp missing
      have someMissing : 0 < flying.answers.countP Option.isNone := by
        apply List.countP_pos_iff.mpr
        exact ⟨none, List.mem_of_getElem? missing, rfl⟩
      -- The volley is put back with one answer less missing, or not at all.
      simp only [work, accounts.searchesInFlight_withdraw aloft, List.countP_set inside, isMissing]
      simp only [Fanout.withdraw, Option.isNone_none, Option.isNone_some]
      simp
      omega
  | refused flying request failure aloft asked answered =>
    cases tracks with
    | failed _ _ _ _ _ _ _ noneFlies => simp [noneFlies] at aloft
    | running accounts =>
      have awaits := accounts.awaits flying aloft
      have someMissing : 0 < flying.answers.countP Option.isNone := by
        apply List.countP_pos_iff.mpr
        exact ⟨none, Volley.missing_of_outcome? awaits.answered awaits.unknown, rfl⟩
      have noWork : (before.fail (failure.within flying.volley.circumstance)).work = 0 := rfl
      rw [noWork, work, accounts.searchesInFlight_withdraw aloft]
      omega

/-- No fan-out goes on for ever. -/
theorem Tracks.length_le_work
    {before after : Fanout α}
    {turns : List FanoutTurn}
    (tracks : before.Tracks answer volleys)
    (followed : before.follow answer turns = some after) :
    turns.length ≤ before.work := by
  induction turns generalizing before with
  | nil => exact Nat.zero_le _
  | cons turn rest inductionHypothesis =>
    obtain ⟨next, taken, followed⟩ := Option.bind_eq_some_iff.mp followed
    have turned := turned_of_take taken
    have lower := tracks.work_lt turned
    have bound := inductionHypothesis (tracks.turned turned) followed
    rw [List.length_cons]
    omega

end Fanout

end RepoVitals.Assembly

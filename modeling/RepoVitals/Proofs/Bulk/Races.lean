import RepoVitals.Proofs.Bulk.Sharing
import RepoVitals.Proofs.Ledger
import RepoVitals.Proofs.Sink.Memory
import RepoVitals.Sink.Rehearsed
/-!
Races for an index in the store in memory.

Owns:
- `Creates`: a client does nothing to the indexes of the store, or it creates its own;
- `Grown`: since the start clients have created some indexes, none of them twice, and every client
  that is done finds its index there; one lemma for an action and one for a course;
- `index_races_are_benign`: whoever comes first, everybody finds its index, and no bulk call comes
  before it.

Between the question whether an index exists and its creation anybody else may create it.
-/

namespace RepoVitals.Bulk

open Index (Settings Stage)
open Sink (Contact Memory Watched)

variable {σ : Type} {store after : Memory}

/-! ### The indexes of the store -/

/-- What a client does to the indexes of a store: nothing, or it creates its own. -/
inductive Creates (caller : Caller) (store after : Memory) : Prop where
  | nothing
      (race : after.race = store.race)
      (indexes : after.indexes = store.indexes)
      (created : after.created = store.created)
  | own
      (race : after.race = store.race)
      (absent : caller.index ∉ store.indexes)
      (indexes : after.indexes = store.indexes ++ [caller.index])
      (created : after.created = store.created ++ [(caller.index, caller.settings)])

theorem Creates.race_eq {caller : Caller} (creates : Creates caller store after) :
    after.race = store.race := by
  cases creates with
  | nothing race indexes created => exact race
  | own race absent indexes created => exact race

/-- No index disappears. -/
theorem Creates.grows {caller : Caller} (creates : Creates caller store after) :
    store.indexes ⊆ after.indexes := by
  cases creates with
  | nothing race indexes created => exact fun index isThere => indexes ▸ isThere
  | own race absent indexes created =>
    rw [indexes]
    exact List.subset_append_left _ _

theorem creates_receive (caller : Caller) (store : Memory) (index : String)
    (documents : List Entry) : Creates caller store (store.receive index documents).2 := by
  unfold Sink.Memory.receive
  split
  · exact .nothing rfl rfl rfl
  · dsimp only
    rw [Sink.Memory.foldl_put]
    exact .nothing rfl rfl rfl

theorem creates_moves
    (caller : Caller)
    {before after : Logged Memory}
    (moves : Logged.Moves Sink.memory before after) :
    Creates caller before.sink after.sink := by
  cases moves with
  | dispatch position part chunk flight state found ready early taken flies =>
    cases flies
    exact .nothing rfl rfl rfl
  | land call part chunk landing state aloft found sending due lands =>
    have received : before.sink.receive before.index call.chunk = (landing, state) := lands
    have creates := creates_receive caller before.sink before.index call.chunk
    rwa [received] at creates
  | _ => exact .nothing rfl rfl rfl

/-- A client that asks or creates goes on, or is done with its index in the store. -/
theorem creates_stage
    (caller : Caller)
    (noRace : store.race = false)
    {stage next : Stage}
    (unsettled : ∀ outcome, stage ≠ .settled outcome)
    (stepped : stage.step Sink.memory caller.settings caller.index store = (next, after)) :
    Creates caller store after ∧
      ∀ outcome, next = .settled outcome → outcome = .ok () ∧ caller.index ∈ after.indexes := by
  cases stage with
  | settled outcome => exact absurd rfl (unsettled outcome)
  | asking =>
    simp only [Stage.step, Sink.memory] at stepped
    by_cases present : caller.index ∈ store.indexes
    · rw [List.contains_iff_mem.mpr present] at stepped
      cases stepped
      refine ⟨.nothing rfl rfl rfl, fun outcome isOutcome => ?_⟩
      cases isOutcome
      exact ⟨rfl, present⟩
    · have absent : store.indexes.contains caller.index = false := by simpa using present
      rw [absent] at stepped
      cases stepped
      refine ⟨.nothing rfl rfl rfl, fun outcome isOutcome => ?_⟩
      cases isOutcome
  | creating =>
    simp only [Stage.step, Sink.memory] at stepped
    by_cases present : caller.index ∈ store.indexes
    · rw [Sink.Memory.create_of_present present] at stepped
      cases stepped
      refine ⟨.nothing rfl rfl rfl, fun outcome isOutcome => ?_⟩
      cases isOutcome
      exact ⟨rfl, present⟩
    · rw [Sink.Memory.create_of_absent noRace present] at stepped
      cases stepped
      refine ⟨.own rfl present rfl rfl, fun outcome isOutcome => ?_⟩
      cases isOutcome
      exact ⟨rfl, List.mem_append_right _ List.mem_cons_self⟩

theorem creates_acts
    (noRace : store.race = false)
    {client next : Client Memory}
    {action : Action}
    {notes : List Note}
    (acts : client.Acts Sink.memory store action next after notes) :
    Creates client.caller store after ∧
      ∀ outcome, next.stage = .settled outcome →
        client.stage = .settled outcome ∨
          outcome = .ok () ∧ client.caller.index ∈ after.indexes := by
  cases acts with
  | moved stage after unsettled stepped unsettledYet =>
    obtain ⟨creates, done⟩ := creates_stage client.caller noRace unsettled stepped
    exact ⟨creates, fun outcome isOutcome => Or.inr (done outcome isOutcome)⟩
  | returned outcome after unsettled stepped =>
    obtain ⟨creates, done⟩ := creates_stage client.caller noRace unsettled stepped
    exact ⟨creates, fun outcome isOutcome => Or.inr (done outcome isOutcome)⟩
  | delivered choice delivery after writes stepped =>
    obtain ⟨logged, rfl, moves⟩ := Delivery.exists_moves stepped
    exact ⟨creates_moves client.caller moves, fun outcome isOutcome => Or.inl isOutcome⟩

/-! ### Everybody's indexes -/

/-- Since the start clients have created these indexes, and whoever is done finds its index. -/
structure Grown (start : Memory) (callers : List Caller) (fresh : List (String × Settings))
    (shared : Shared Memory) : Prop where
  sound : shared.Sound callers
  race : shared.state.race = false
  indexes : shared.state.indexes = start.indexes ++ fresh.map Prod.fst
  created : shared.state.created = start.created ++ fresh
  unrepeated : Unrepeated fresh
  absent : ∀ entry ∈ fresh, entry.1 ∉ start.indexes
  wanted : ∀ entry ∈ fresh, ∃ caller ∈ callers, (caller.index, caller.settings) = entry
  done : ∀ client ∈ shared.clients, ∀ outcome, client.stage = .settled outcome →
    outcome = .ok () ∧ client.caller.index ∈ shared.state.indexes

variable {start : Memory} {callers : List Caller} {fresh : List (String × Settings)}
  {before after : Shared Memory} {turns : List (Nat × Action)}

theorem grown_new (noRace : start.race = false) (callers : List Caller) :
    Grown start callers [] (.new start callers) where
  sound := Shared.sound_new start callers
  race := noRace
  indexes := (List.append_nil _).symm
  created := (List.append_nil _).symm
  unrepeated := List.nodup_nil
  absent := fun _ none => absurd none List.not_mem_nil
  wanted := fun _ none => absurd none List.not_mem_nil
  done := by
    intro client isClient outcome isOutcome
    obtain ⟨caller, -, rfl⟩ := List.mem_map.mp isClient
    cases isOutcome

/-- Clients that are done stay done, and the one that acts is done once its index is there. -/
theorem Grown.done_set
    (grown : Grown start callers fresh before)
    {position : Nat}
    {client next : Client Memory}
    {state : Memory}
    (isClient : before.clients[position]? = some client)
    (same : next.caller = client.caller)
    (grows : before.state.indexes ⊆ state.indexes)
    (finds : ∀ outcome, next.stage = .settled outcome →
      client.stage = .settled outcome ∨ outcome = .ok () ∧ client.caller.index ∈ state.indexes) :
    ∀ other ∈ before.clients.set position next, ∀ outcome, other.stage = .settled outcome →
      outcome = .ok () ∧ other.caller.index ∈ state.indexes := by
  intro other isOther outcome isOutcome
  rcases List.mem_or_eq_of_mem_set isOther with old | rfl
  · obtain ⟨isOk, isThere⟩ := grown.done other old outcome isOutcome
    exact ⟨isOk, grows isThere⟩
  · rw [same]
    rcases finds outcome isOutcome with already | found
    · obtain ⟨isOk, isThere⟩ := grown.done client (List.mem_of_getElem? isClient) outcome already
      exact ⟨isOk, grows isThere⟩
    · exact found

theorem Grown.step
    {turn : Nat × Action}
    (grown : Grown start callers fresh before)
    (stepped : before.step Sink.memory turn = some after) :
    ∃ fresh', Grown start callers fresh' after := by
  have sound := grown.sound.step stepped
  obtain ⟨client, next, state, notes, isClient, acts, rfl⟩ := Shared.acts_of_step stepped
  obtain ⟨creates, finds⟩ := creates_acts grown.race acts
  have race := creates.race_eq.trans grown.race
  have done := grown.done_set isClient (Client.caller_of_acts acts) creates.grows finds
  cases creates with
  | nothing _ indexes created =>
    exact ⟨fresh, {
      sound := sound
      race := race
      indexes := indexes.trans grown.indexes
      created := created.trans grown.created
      unrepeated := grown.unrepeated
      absent := grown.absent
      wanted := grown.wanted
      done := done }⟩
  | own _ absent indexes created =>
    have isCaller : client.caller ∈ callers := by
      rw [← grown.sound.callers]
      exact List.mem_map_of_mem (List.mem_of_getElem? isClient)
    rw [grown.indexes, List.mem_append, not_or] at absent
    obtain ⟨absentAtStart, absentSince⟩ := absent
    refine ⟨fresh ++ [(client.caller.index, client.caller.settings)], {
      sound := sound
      race := race
      indexes := by rw [indexes, grown.indexes, List.map_append, List.append_assoc]; rfl
      created := by rw [created, grown.created, List.append_assoc]
      unrepeated := ?_
      absent := ?_
      wanted := ?_
      done := done }⟩
    · rw [Unrepeated, List.map_append, List.map_singleton, ← List.concat_eq_append]
      exact grown.unrepeated.concat absentSince
    · intro entry isEntry
      rcases List.mem_append.mp isEntry with old | new
      · exact grown.absent entry old
      · rw [List.mem_singleton.mp new]
        exact absentAtStart
    · intro entry isEntry
      rcases List.mem_append.mp isEntry with old | new
      · exact grown.wanted entry old
      · exact ⟨client.caller, isCaller, (List.mem_singleton.mp new).symm⟩

theorem grown_of_exec
    (noRace : start.race = false)
    (course : (Shared.new start callers).exec Sink.memory turns = some after) :
    ∃ fresh, Grown start callers fresh after := by
  refine Shared.kept_of_exec (fun shared => ∃ fresh, Grown start callers fresh shared) ?_
    ⟨[], grown_new noRace callers⟩ course
  rintro before turn after ⟨fresh, grown⟩ stepped
  exact grown.step stepped

theorem indexes_subset_of_exec
    (noRace : before.state.race = false)
    (course : before.exec Sink.memory turns = some after) :
    before.state.indexes ⊆ after.state.indexes := by
  have kept := Shared.kept_of_exec (fun shared => shared.state.race = false ∧
    before.state.indexes ⊆ shared.state.indexes) ?_ ⟨noRace, List.Subset.refl _⟩ course
  · exact kept.2
  · rintro between turn later ⟨race, grows⟩ stepped
    obtain ⟨client, next, state, notes, isClient, acts, rfl⟩ := Shared.acts_of_step stepped
    obtain ⟨creates, -⟩ := creates_acts race acts
    exact ⟨creates.race_eq.trans race, List.Subset.trans grows creates.grows⟩

/-! ### Races -/

/-- Nobody loses a race for an index. -/
structure EndsWell (start : Memory) (callers : List Caller) (turns : List (Nat × Action))
    (after : Shared Memory) : Prop where
  /-- Making sure of an index is over after two steps, and until then the next step is possible. -/
  returns : ∀ position (client : Client Memory), after.clients[position]? = some client →
    turns.count (position, .ensure) ≤ 2 ∧
      ((∃ outcome, client.stage = .settled outcome) ∨
        turns.count (position, .ensure) < 2 ∧
          ∃ next, after.step Sink.memory (position, .ensure) = some next)
  ensured : ∀ position index outcome, (position, .ensured index outcome) ∈ after.journal →
    outcome = .ok () ∧ index ∈ after.state.indexes
  lasting : ∀ more later, after.exec Sink.memory more = some later →
    after.state.indexes ⊆ later.state.indexes
  created : ∃ fresh, after.state.indexes = start.indexes ++ fresh.map Prod.fst ∧
    after.state.created = start.created ++ fresh ∧
    ∀ index ∈ after.state.indexes, index ∉ start.indexes → ∃ caller ∈ callers,
      caller.index = index ∧
        fresh.filter (fun entry => entry.1 = index) = [(index, caller.settings)]

theorem endsWell_of_exec
    (noRace : start.race = false)
    (course : (Shared.new start callers).exec Sink.memory turns = some after) :
    EndsWell start callers turns after := by
  obtain ⟨fresh, grown⟩ := grown_of_exec noRace course
  refine ⟨fun position client => Shared.returns_of_exec course, ?_,
    fun more later => indexes_subset_of_exec grown.race, fresh, grown.indexes, grown.created, ?_⟩
  · intro position index outcome isNote
    obtain ⟨client, isClient, minds⟩ := grown.sound.exists_client isNote
    obtain ⟨rfl, isSettled⟩ := minds.ensured index outcome isNote
    exact grown.done client (List.mem_of_getElem? isClient) outcome isSettled
  · intro index isThere absent
    rw [grown.indexes] at isThere
    rcases List.mem_append.mp isThere with old | new
    · exact absurd old absent
    · obtain ⟨entry, isEntry, rfl⟩ := List.mem_map.mp new
      obtain ⟨caller, isCaller, same⟩ := grown.wanted entry isEntry
      refine ⟨caller, isCaller, congrArg Prod.fst same, ?_⟩
      rw [filter_of_unrepeated grown.unrepeated isEntry, ← same]

/-- A write whose index cannot be ensured says why, and has done nothing but ask or try to
create. -/
theorem Writer.write_of_unensured
    (writer : Writer σ)
    (options : WriteOptions)
    {batch : Batch}
    {index : String}
    {state ensured : Watched σ}
    {failure : Failure}
    (someDocument : batch.documents ≠ [])
    (fails : Index.ensure writer.watched.sink writer.settings index state =
      (.error failure, ensured)) :
    writer.watched.write options batch index state = (.error failure, ensured) ∧
      ∃ creates, ensured.contacts =
        state.contacts ++ Contact.ofWrite index writer.settings creates [] := by
  constructor
  · have watched : Index.ensure writer.watched.sink writer.watched.settings index state =
        (.error failure, ensured) := fails
    rw [write, if_neg (by simpa using someDocument), watched]
  · obtain ⟨creates, contacts⟩ :=
      Index.contacts_of_ensure writer.sink writer.settings index state
    have same : (Index.ensure writer.sink.watched writer.settings index state).2 = ensured :=
      congrArg Prod.snd fails
    rw [same] at contacts
    exact ⟨creates, contacts⟩

/-- **Races for an index are benign.**  However the questions and creations of any number of clients
come after each other in a store in memory, every client finds its index, which stays from then on,
and an index that is new was created once, as one of the clients wanted it.  In no sink does a
client make a bulk call before it has made sure of its index, and a write that cannot make sure of
it reports that failure and makes no bulk call. -/
theorem index_races_are_benign :
    (∀ (start : Memory) (callers : List Caller) (turns : List (Nat × Action))
      (after : Shared Memory),
      start.race = false → (Shared.new start callers).exec Sink.memory turns = some after →
        EndsWell start callers turns after) ∧
    (∀ (σ : Type) (sink : Sink σ) (state : σ) (callers : List Caller)
      (turns : List (Nat × Action)) (after : Shared σ),
      (Shared.new state callers).exec sink turns = some after → after.Orderly) ∧
    ∀ (σ : Type) (writer : Writer σ) (options : WriteOptions) (batch : Batch) (index : String)
      (state ensured : Watched σ) (failure : Failure),
      batch.documents ≠ [] →
        Index.ensure writer.watched.sink writer.settings index state =
          (.error failure, ensured) →
        writer.watched.write options batch index state = (.error failure, ensured) ∧
          ∃ creates, ensured.contacts =
            state.contacts ++ Contact.ofWrite index writer.settings creates [] := by
  refine ⟨?_, ?_, ?_⟩
  · intro start callers turns after noRace course
    exact endsWell_of_exec noRace course
  · intro σ sink state callers turns after course
    exact Shared.orderly_of_exec course
  · intro σ writer options batch index state ensured failure someDocument fails
    exact writer.write_of_unensured options someDocument fails

/-- Two clients find that their index is missing before either of them creates it, and a write finds
out nothing about its index. -/
theorem index_races_are_benign_for_two_late_clients :
    let start : Memory := .empty 0 [] false 0
    let small : Settings := ⟨1, 1, 1, 1, 1⟩
    let first : Caller := ⟨"metrics", .standard, 1, none⟩
    let second : Caller := ⟨"metrics", small, 1, none⟩
    let turns : List (Nat × Action) := [(0, .ensure), (1, .ensure), (1, .ensure), (0, .ensure)]
    let after : Shared Memory :=
      ⟨{ start with indexes := ["metrics"], created := [("metrics", small)] },
        [⟨first, .settled (.ok ()), none⟩, ⟨second, .settled (.ok ()), none⟩],
        [(1, .ensured "metrics" (.ok ())), (0, .ensured "metrics" (.ok ()))]⟩
    let writer : Writer Sink.Rehearsal := ⟨Sink.rehearsed, .standard, 1⟩
    let down : Sink.Rehearsal := ⟨.error "down", .ok .created, [], [], []⟩
    let failure : Failure :=
      (Failure.ofCause (.stated "down")).within (.askingForIndex "metrics")
    (Shared.new start [first, second]).exec Sink.memory turns = some after ∧
      EndsWell start [first, second] turns after ∧ after.Orderly ∧
      writer.watched.write ⟨1, 1, 1⟩ (Batch.ofEntries [⟨"a", "1"⟩]) "metrics" ⟨down, []⟩ =
        (.error failure, ⟨down, [.existence "metrics"]⟩) := by
  intro start small first second turns after writer down failure
  obtain ⟨races, waits, failures⟩ := index_races_are_benign
  have course : (Shared.new start [first, second]).exec Sink.memory turns = some after := rfl
  have fails : Index.ensure writer.watched.sink writer.settings "metrics" ⟨down, []⟩ =
      (.error failure, ⟨down, [.existence "metrics"]⟩) := rfl
  have unwritten := failures Sink.Rehearsal writer ⟨1, 1, 1⟩ (Batch.ofEntries [⟨"a", "1"⟩])
    "metrics" ⟨down, []⟩ _ failure (by decide) fails
  exact ⟨course, races start _ turns after rfl course,
    waits Memory Sink.memory start _ turns after course, unwritten.1⟩

end RepoVitals.Bulk

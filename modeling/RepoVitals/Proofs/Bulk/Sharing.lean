import RepoVitals.Proofs.Bulk.Steady
import RepoVitals.Proofs.Sink.Watched
/-!
Clients that share a sink.

Owns:
- clients, each of which makes sure of an index and then writes into it what it has, if anything;
- `Shared`, the sink with all clients and the journal of what they did: between any two steps of one
  client the others may act;
- `Client.Acts`: everything that a client can do next;
- `Client.Minds`: what the journal says of a client fits how far it has come; one lemma for an
  action, and `Shared.sound_of_exec` for a course;
- `Shared.orderly_of_exec`: no client makes a bulk call before it has made sure of its index;
- `Shared.exec_of_write`: a write is what a client does that has the sink for itself.
-/

namespace RepoVitals.Bulk

open Index (Settings Stage)

variable {σ : Type}

/-! ### Clients -/

/-- What a client is to do: make sure of an index, and then write its cargo into it, if it has
one. -/
structure Caller where
  index : String
  settings : Settings
  poolSize : Nat
  cargo : Option (WriteOptions × Batch)

/-- A client on its way.  What its delivery knows of the sink is out of date once others have
acted. -/
structure Client (σ : Type) where
  caller : Caller
  stage : Stage
  delivery : Option (Delivery σ)

/-- What a client can do: go on with making sure of its index, or go on with its delivery. -/
inductive Action where
  | ensure
  | deliver (choice : Choice)
  deriving DecidableEq

/-- What is noted of a client: how making sure of its index ended, and its bulk calls. -/
inductive Note where
  | ensured (index : String) (outcome : Outcome Unit)
  | called (index : String) (documents : List Entry)

namespace Caller

/-- The writer that does it. -/
def writer (caller : Caller) (sink : Sink σ) : Writer σ :=
  ⟨sink, caller.settings, caller.poolSize⟩

/-- The client that has done nothing yet. -/
def client (caller : Caller) : Client σ := ⟨caller, .asking, none⟩

end Caller

namespace Client

/-- The client once it is known how making sure of its index ended. -/
def settle (sink : Sink σ) (client : Client σ) (outcome : Outcome Unit) (state : σ) : Client σ where
  caller := client.caller
  stage := .settled outcome
  delivery :=
    match outcome with
    | .ok () => client.caller.cargo.map (fun cargo =>
      (client.caller.writer sink).delivery cargo.1 cargo.2 client.caller.index state)
    | .error _ => none

/-- The client after the next thing for its index. -/
def ensure (sink : Sink σ) (client : Client σ) (state : σ) :
    Option (Client σ × σ × List Note) :=
  match client.stage with
  | .settled _ => none
  | stage =>
    match stage.step sink client.caller.settings client.caller.index state with
    | (.settled outcome, after) =>
      some (client.settle sink outcome after, after, [.ensured client.caller.index outcome])
    | (next, after) => some ({ client with stage := next }, after, [])

/-- The client after the next thing for its delivery. -/
def deliver (sink : Sink σ) (client : Client σ) (state : σ) (choice : Choice) :
    Option (Client σ × σ × List Note) := do
  let delivery ← client.delivery
  let before : Delivery σ := { delivery with sink := state }
  let after ← before.step sink choice
  some ({ client with delivery := some after }, after.sink,
    (before.startsBy after).map (fun start => .called start.index start.chunk))

/-- The client after an action, with the sink and what is noted, if the action is possible. -/
def act (sink : Sink σ) (client : Client σ) (state : σ) :
    Action → Option (Client σ × σ × List Note)
  | .ensure => client.ensure sink state
  | .deliver choice => client.deliver sink state choice

/-- Everything that a client can do next. -/
inductive Acts (sink : Sink σ) (client : Client σ) (state : σ) :
    Action → Client σ → σ → List Note → Prop where
  | moved (next : Stage) (after : σ)
      (unsettled : ∀ outcome, client.stage ≠ .settled outcome)
      (stepped : client.stage.step sink client.caller.settings client.caller.index state =
        (next, after))
      (unsettledYet : ∀ outcome, next ≠ .settled outcome) :
      Acts sink client state .ensure { client with stage := next } after []
  | returned (outcome : Outcome Unit) (after : σ)
      (unsettled : ∀ outcome, client.stage ≠ .settled outcome)
      (stepped : client.stage.step sink client.caller.settings client.caller.index state =
        (.settled outcome, after)) :
      Acts sink client state .ensure (client.settle sink outcome after) after
        [.ensured client.caller.index outcome]
  | delivered (choice : Choice) (delivery after : Delivery σ)
      (writes : client.delivery = some delivery)
      (stepped : ({ delivery with sink := state } : Delivery σ).step sink choice = some after) :
      Acts sink client state (.deliver choice) { client with delivery := some after } after.sink
        ((({ delivery with sink := state } : Delivery σ).startsBy after).map
          (fun start => .called start.index start.chunk))

theorem acts_of_act
    {sink : Sink σ}
    {client next : Client σ}
    {state after : σ}
    {action : Action}
    {notes : List Note}
    (acted : client.act sink state action = some (next, after, notes)) :
    client.Acts sink state action next after notes := by
  cases action with
  | ensure =>
    simp only [act, ensure] at acted
    split at acted
    · cases acted
    · rename_i stage unsettled
      split at acted
      · rename_i outcome later stepped
        cases acted
        exact .returned outcome _ unsettled stepped
      · rename_i later unsettledYet stepped
        cases acted
        exact .moved _ _ unsettled stepped unsettledYet
  | deliver choice =>
    simp only [act, deliver, Option.bind_eq_bind] at acted
    obtain ⟨delivery, writes, acted⟩ := Option.bind_eq_some_iff.mp acted
    obtain ⟨later, stepped, acted⟩ := Option.bind_eq_some_iff.mp acted
    cases acted
    exact .delivered choice delivery later writes stepped

end Client

/-! ### All clients -/

/-- A sink with all its clients, and the journal of what each of them was seen to do. -/
structure Shared (σ : Type) where
  state : σ
  clients : List (Client σ)
  journal : List (Nat × Note)

namespace Shared

/-- Nobody has done anything yet. -/
def new (state : σ) (callers : List Caller) : Shared σ :=
  ⟨state, callers.map Caller.client, []⟩

/-- All after the action of one client, if the action is possible. -/
def step (sink : Sink σ) (shared : Shared σ) (turn : Nat × Action) : Option (Shared σ) := do
  let client ← shared.clients[turn.1]?
  let (next, state, notes) ← client.act sink shared.state turn.2
  some ⟨state, shared.clients.set turn.1 next, shared.journal ++ notes.map (Prod.mk turn.1)⟩

/-- All after the actions of clients, in any order. -/
def exec (sink : Sink σ) (shared : Shared σ) : List (Nat × Action) → Option (Shared σ)
  | [] => some shared
  | turn :: rest => (shared.step sink turn).bind (fun after => after.exec sink rest)

theorem acts_of_step
    {sink : Sink σ}
    {before after : Shared σ}
    {turn : Nat × Action}
    (stepped : before.step sink turn = some after) :
    ∃ client next state notes, before.clients[turn.1]? = some client ∧
      client.Acts sink before.state turn.2 next state notes ∧
      after = ⟨state, before.clients.set turn.1 next,
        before.journal ++ notes.map (Prod.mk turn.1)⟩ := by
  simp only [step, Option.bind_eq_bind] at stepped
  obtain ⟨client, isClient, stepped⟩ := Option.bind_eq_some_iff.mp stepped
  obtain ⟨⟨next, state, notes⟩, acted, stepped⟩ := Option.bind_eq_some_iff.mp stepped
  cases stepped
  exact ⟨client, next, state, notes, isClient, Client.acts_of_act acted, rfl⟩

/-- What every action keeps is kept. -/
theorem kept_of_exec
    {sink : Sink σ}
    (kept : Shared σ → Prop)
    (keeps : ∀ before turn after, kept before → before.step sink turn = some after → kept after)
    {before after : Shared σ}
    {turns : List (Nat × Action)}
    (holds : kept before)
    (course : before.exec sink turns = some after) :
    kept after := by
  induction turns generalizing before with
  | nil =>
    cases course
    exact holds
  | cons turn rest inductionHypothesis =>
    obtain ⟨next, stepped, course⟩ := Option.bind_eq_some_iff.mp course
    exact inductionHypothesis (keeps before turn next holds stepped) course

end Shared

/-! ### The journal -/

/-- What the journal says of a client fits how far it has come. -/
structure Client.Minds (journal : List (Nat × Note)) (position : Nat) (client : Client σ) :
    Prop where
  ensured : ∀ index outcome, (position, .ensured index outcome) ∈ journal →
    index = client.caller.index ∧ client.stage = .settled outcome
  called : ∀ index documents, (position, .called index documents) ∈ journal →
    index = client.caller.index ∧ client.stage = .settled (.ok ())
  settled : ∀ outcome, client.stage = .settled outcome →
    (position, .ensured client.caller.index outcome) ∈ journal
  delivers : ∀ delivery ∈ client.delivery, delivery.index = client.caller.index ∧
    client.stage = .settled (.ok ())

/-- Every bulk call comes after its client has made sure of the index. -/
def CallsWait (journal : List (Nat × Note)) : Prop :=
  ∀ place position index documents, journal[place]? = some (position, .called index documents) →
    (position, .ensured index (.ok ())) ∈ journal.take place

theorem Delivery.exists_moves
    {sink : Sink σ}
    {before after : Delivery σ}
    {choice : Choice}
    (stepped : before.step sink choice = some after) :
    ∃ logged : Logged σ, logged.toDelivery = after ∧ (Logged.new before).Moves sink logged := by
  have logged : (Logged.new before).step sink choice = some ⟨after, _, _⟩ :=
    Option.map_eq_some_iff.mpr ⟨after, stepped, rfl⟩
  exact ⟨_, rfl, Logged.moves_of_step logged⟩

theorem Delivery.index_of_step
    {sink : Sink σ}
    {before after : Delivery σ}
    {choice : Choice}
    (stepped : before.step sink choice = some after) :
    after.index = before.index := by
  obtain ⟨logged, rfl, moves⟩ := exists_moves stepped
  exact moves.frame.index

namespace Client

variable {sink : Sink σ} {client next : Client σ} {state after : σ} {action : Action}
  {notes : List Note} {journal : List (Nat × Note)} {position : Nat}

theorem Minds.of_others
    (minds : client.Minds journal position)
    {other : Nat}
    (isOther : other ≠ position)
    (notes : List Note) :
    client.Minds (journal ++ notes.map (Prod.mk other)) position := by
  have same (note : Note) :
      (position, note) ∈ journal ++ notes.map (Prod.mk other) ↔ (position, note) ∈ journal := by
    simp [isOther]
  exact ⟨fun index outcome isNote => minds.ensured index outcome ((same _).mp isNote),
    fun index documents isNote => minds.called index documents ((same _).mp isNote),
    fun outcome isOutcome => (same _).mpr (minds.settled outcome isOutcome), minds.delivers⟩

theorem caller_of_acts (acts : client.Acts sink state action next after notes) :
    next.caller = client.caller := by
  cases acts <;> rfl

/-- Nothing is noted of a client that is not done with its index. -/
theorem Minds.silent
    (minds : client.Minds journal position)
    (unsettled : ∀ outcome, client.stage ≠ .settled outcome)
    (note : Note) :
    (position, note) ∉ journal := by
  intro isNote
  cases note with
  | ensured index outcome => exact unsettled _ (minds.ensured index outcome isNote).2
  | called index documents => exact unsettled _ (minds.called index documents isNote).2

theorem mem_startsBy
    {before after : Delivery σ}
    {start : Start}
    (isStart : start ∈ before.startsBy after) :
    start.index = before.index := by
  obtain ⟨call, -, rfl⟩ := List.mem_map.mp isStart
  rfl

theorem Minds.acts
    (minds : client.Minds journal position)
    (acts : client.Acts sink state action next after notes) :
    next.Minds (journal ++ notes.map (Prod.mk position)) position := by
  cases acts with
  | moved stage after unsettled stepped unsettledYet =>
    rw [List.map_nil, List.append_nil]
    refine ⟨?_, ?_, ?_, ?_⟩
    · exact fun index outcome isNote => absurd isNote (minds.silent unsettled _)
    · exact fun index documents isNote => absurd isNote (minds.silent unsettled _)
    · exact fun outcome isOutcome => absurd isOutcome (unsettledYet outcome)
    · exact fun delivery writes => absurd (minds.delivers delivery writes).2 (unsettled _)
  | returned outcome after unsettled stepped =>
    have isLast {note : Note} (isNote : (position, note) ∈
        journal ++ [Note.ensured client.caller.index outcome].map (Prod.mk position)) :
        note = .ensured client.caller.index outcome := by
      rcases List.mem_append.mp isNote with old | new
      · exact absurd old (minds.silent unsettled _)
      · exact (Prod.mk.inj (List.mem_singleton.mp new)).2
    refine ⟨?_, ?_, ?_, ?_⟩
    · intro index other isNote
      cases isLast isNote
      exact ⟨rfl, rfl⟩
    · intro index documents isNote
      cases isLast isNote
    · intro other isOther
      cases isOther
      exact List.mem_append_right _ List.mem_cons_self
    · intro delivery writes
      cases outcome with
      | error failure => cases writes
      | ok _ =>
        obtain ⟨cargo, -, rfl⟩ := Option.map_eq_some_iff.mp writes
        exact ⟨rfl, rfl⟩
  | delivered choice delivery after writes stepped =>
    obtain ⟨isIndex, isEnsured⟩ := minds.delivers delivery writes
    have isIndexThen : after.index = client.caller.index :=
      (Delivery.index_of_step stepped).trans isIndex
    refine ⟨?_, ?_, ?_, ?_⟩
    · intro index outcome isNote
      rcases List.mem_append.mp isNote with old | new
      · exact minds.ensured index outcome old
      · simp at new
    · intro index documents isNote
      rcases List.mem_append.mp isNote with old | new
      · exact minds.called index documents old
      · obtain ⟨note, isNew, same⟩ := List.mem_map.mp new
        obtain ⟨start, isStart, rfl⟩ := List.mem_map.mp isNew
        cases same
        exact ⟨(mem_startsBy isStart).trans isIndex, isEnsured⟩
    · intro outcome isOutcome
      exact List.mem_append_left _ (minds.settled outcome isOutcome)
    · intro other isOther
      cases isOther
      exact ⟨isIndexThen, isEnsured⟩

/-- A client that makes a bulk call has made sure of the index. -/
theorem Minds.ensured_of_called
    (minds : client.Minds journal position)
    (acts : client.Acts sink state action next after notes)
    {index : String}
    {documents : List Entry}
    (isNote : .called index documents ∈ notes) :
    (position, .ensured index (.ok ())) ∈ journal := by
  cases acts with
  | moved stage after unsettled stepped unsettledYet => cases isNote
  | returned outcome after unsettled stepped => cases List.mem_singleton.mp isNote
  | delivered choice delivery after writes stepped =>
    obtain ⟨start, isStart, same⟩ := List.mem_map.mp isNote
    cases same
    obtain ⟨isIndex, isEnsured⟩ := minds.delivers delivery writes
    rw [mem_startsBy isStart]
    show (position, .ensured delivery.index (.ok ())) ∈ journal
    rw [isIndex]
    exact minds.settled _ isEnsured

end Client

namespace Shared

/-- The journal is about the clients and fits each of them, and in it no bulk call comes too
early. -/
structure Sound (callers : List Caller) (shared : Shared σ) : Prop where
  callers : shared.clients.map Client.caller = callers
  known : ∀ noted ∈ shared.journal, noted.1 < shared.clients.length
  minds : ∀ position (client : Client σ), shared.clients[position]? = some client →
    client.Minds shared.journal position
  wait : CallsWait shared.journal

theorem sound_new (state : σ) (callers : List Caller) : (new state callers).Sound callers where
  callers := by
    rw [new, List.map_map]
    exact List.map_id callers
  known := fun _ none => absurd none List.not_mem_nil
  minds := by
    intro position client isClient
    rw [new, List.getElem?_map] at isClient
    obtain ⟨caller, -, rfl⟩ := Option.map_eq_some_iff.mp isClient
    exact ⟨fun _ _ none => absurd none List.not_mem_nil,
      fun _ _ none => absurd none List.not_mem_nil, nofun, nofun⟩
  wait := fun place position index documents none => by cases none

/-- Bulk calls may be noted once their client has made sure of its index. -/
theorem callsWait_append
    {journal : List (Nat × Note)}
    {position : Nat}
    {notes : List Note}
    (wait : CallsWait journal)
    (ensured : ∀ index documents, .called index documents ∈ notes →
      (position, .ensured index (.ok ())) ∈ journal) :
    CallsWait (journal ++ notes.map (Prod.mk position)) := by
  intro place other index documents isNote
  rw [List.take_append]
  apply List.mem_append_left
  by_cases early : place < journal.length
  · rw [List.getElem?_append_left early] at isNote
    exact wait place other index documents isNote
  · have whole : journal.take place = journal := List.take_of_length_le (Nat.le_of_not_lt early)
    rw [List.getElem?_append_right (Nat.le_of_not_lt early)] at isNote
    obtain ⟨note, isNew, same⟩ := List.mem_map.mp (List.mem_of_getElem? isNote)
    cases same
    rw [whole]
    exact ensured index documents isNew

theorem Sound.step
    {sink : Sink σ}
    {callers : List Caller}
    {before after : Shared σ}
    {turn : Nat × Action}
    (sound : before.Sound callers)
    (stepped : before.step sink turn = some after) :
    after.Sound callers := by
  obtain ⟨client, next, state, notes, isClient, acts, rfl⟩ := acts_of_step stepped
  have minds := sound.minds turn.1 client isClient
  have inside := (List.getElem?_eq_some_iff.mp isClient).1
  refine ⟨?_, ?_, ?_, callsWait_append sound.wait fun _ _ => minds.ensured_of_called acts⟩
  · rw [← sound.callers]
    apply List.ext_getElem?
    intro position
    simp only [List.getElem?_map, List.getElem?_set]
    by_cases same : turn.1 = position
    · subst same
      have isThere := (List.getElem?_eq_some_iff.mp isClient).2
      simp [inside, isThere, Client.caller_of_acts acts]
    · simp [same]
  · intro noted isNoted
    rw [List.length_set]
    rcases List.mem_append.mp isNoted with old | new
    · exact sound.known noted old
    · obtain ⟨note, -, rfl⟩ := List.mem_map.mp new
      exact inside
  · intro position other isOther
    by_cases same : turn.1 = position
    · subst same
      rw [List.getElem?_set_self inside] at isOther
      rw [← Option.some.inj isOther]
      exact minds.acts acts
    · rw [List.getElem?_set_ne same] at isOther
      exact (sound.minds position other isOther).of_others same notes

/-- A note tells how far its client has come. -/
theorem Sound.exists_client
    {callers : List Caller}
    {shared : Shared σ}
    {position : Nat}
    {note : Note}
    (sound : shared.Sound callers)
    (isNote : (position, note) ∈ shared.journal) :
    ∃ client, shared.clients[position]? = some client ∧ client.Minds shared.journal position := by
  have isClient := List.getElem?_eq_getElem (sound.known _ isNote)
  exact ⟨_, isClient, sound.minds position _ isClient⟩

theorem sound_of_exec
    {sink : Sink σ}
    {state : σ}
    {callers : List Caller}
    {turns : List (Nat × Action)}
    {after : Shared σ}
    (course : (new state callers).exec sink turns = some after) :
    after.Sound callers :=
  kept_of_exec (Sound callers) (fun _ _ _ sound stepped => sound.step stepped)
    (sound_new state callers) course

end Shared

/-! ### Every client comes to an end with its index -/

/-- How many steps making sure of an index may still take. -/
def stepsLeft : Stage → Nat
  | .asking => 2
  | .creating => 1
  | .settled _ => 0

theorem stepsLeft_step
    (sink : Sink σ)
    (settings : Settings)
    (index : String)
    (state : σ)
    {stage : Stage}
    (unsettled : ∀ outcome, stage ≠ .settled outcome) :
    stepsLeft (stage.step sink settings index state).1 < stepsLeft stage := by
  cases stage with
  | asking =>
    unfold Stage.step
    rcases sink.indexExists state index with ⟨_ | (_ | _), asked⟩ <;> simp [stepsLeft]
  | creating =>
    unfold Stage.step
    rcases sink.createIndex state index settings with ⟨_ | _, created⟩ <;> simp [stepsLeft]
  | settled outcome => exact absurd rfl (unsettled outcome)

namespace Client

variable {sink : Sink σ} {client next : Client σ} {state after : σ} {action : Action}
  {notes : List Note}

theorem stepsLeft_of_acts (acts : client.Acts sink state action next after notes) :
    (if action = .ensure then 1 else 0) + stepsLeft next.stage ≤ stepsLeft client.stage := by
  cases acts with
  | moved stage after unsettled stepped unsettledYet =>
    have fewer := stepsLeft_step sink client.caller.settings client.caller.index state unsettled
    rw [stepped] at fewer
    rw [if_pos rfl, Nat.add_comm]
    exact fewer
  | returned outcome after unsettled stepped =>
    have fewer := stepsLeft_step sink client.caller.settings client.caller.index state unsettled
    rw [stepped] at fewer
    rw [if_pos rfl, Nat.add_comm]
    exact fewer
  | delivered choice delivery after writes stepped => simp

/-- A client that is not done with its index can go on with it. -/
theorem exists_ensure
    (sink : Sink σ)
    (state : σ)
    (unsettled : ∀ outcome, client.stage ≠ .settled outcome) :
    ∃ result, client.act sink state .ensure = some result := by
  show ∃ result, client.ensure sink state = some result
  unfold ensure
  split
  · rename_i outcome isStage
    exact absurd isStage (unsettled outcome)
  · split <;> exact ⟨_, rfl⟩

end Client

namespace Shared

variable {sink : Sink σ} {before after : Shared σ} {position : Nat} {client : Client σ}

theorem stepsLeft_of_step
    {turn : Nat × Action}
    (stepped : before.step sink turn = some after)
    (isClient : before.clients[position]? = some client) :
    ∃ next, after.clients[position]? = some next ∧
      (if turn = (position, .ensure) then 1 else 0) + stepsLeft next.stage ≤
        stepsLeft client.stage := by
  obtain ⟨other, next, state, notes, isOther, acts, rfl⟩ := acts_of_step stepped
  by_cases same : turn.1 = position
  · subst same
    cases Option.some.inj (isClient.symm.trans isOther)
    refine ⟨next, List.getElem?_set_self (List.getElem?_eq_some_iff.mp isClient).1, ?_⟩
    have left := Client.stepsLeft_of_acts acts
    obtain ⟨position, action⟩ := turn
    simpa using left
  · have isNot : turn ≠ (position, .ensure) := fun isTurn => same (congrArg Prod.fst isTurn)
    refine ⟨client, ?_, ?_⟩
    · show (before.clients.set turn.1 next)[position]? = some client
      rw [List.getElem?_set_ne same]
      exact isClient
    · rw [if_neg isNot, Nat.zero_add]

/-- The steps that a client has taken for its index are no longer left. -/
theorem stepsLeft_of_exec
    {turns : List (Nat × Action)}
    (course : before.exec sink turns = some after)
    (isClient : before.clients[position]? = some client) :
    ∃ next, after.clients[position]? = some next ∧
      turns.count (position, .ensure) + stepsLeft next.stage ≤ stepsLeft client.stage := by
  induction turns generalizing before client with
  | nil =>
    cases course
    exact ⟨client, isClient, by simp⟩
  | cons turn rest inductionHypothesis =>
    obtain ⟨between, stepped, course⟩ := Option.bind_eq_some_iff.mp course
    obtain ⟨middle, isMiddle, first⟩ := stepsLeft_of_step stepped isClient
    obtain ⟨next, isNext, later⟩ := inductionHypothesis course isMiddle
    refine ⟨next, isNext, ?_⟩
    rw [List.count_cons]
    simp only [beq_iff_eq]
    omega

/-- A client that is not done with its index can take a turn. -/
theorem exists_turn
    (sink : Sink σ)
    (isClient : before.clients[position]? = some client)
    (unsettled : ∀ outcome, client.stage ≠ .settled outcome) :
    ∃ after, before.step sink (position, .ensure) = some after := by
  obtain ⟨⟨next, state, notes⟩, acted⟩ := Client.exists_ensure sink before.state unsettled
  unfold step
  simp only [isClient, acted, Option.bind_eq_bind, Option.bind_some]
  exact ⟨_, rfl⟩

/-- Making sure of an index is over after two steps, and until then the next step is possible. -/
theorem returns_of_exec
    {state : σ}
    {callers : List Caller}
    {turns : List (Nat × Action)}
    (course : (new state callers).exec sink turns = some after)
    (isClient : after.clients[position]? = some client) :
    turns.count (position, .ensure) ≤ 2 ∧
      ((∃ outcome, client.stage = .settled outcome) ∨
        turns.count (position, .ensure) < 2 ∧
          ∃ next, after.step sink (position, .ensure) = some next) := by
  have isCaller : callers[position]? = some client.caller := by
    rw [← (sound_of_exec course).callers, List.getElem?_map, isClient]
    rfl
  have isAtStart : (new state callers).clients[position]? = some client.caller.client := by
    rw [new, List.getElem?_map, isCaller]
    rfl
  obtain ⟨next, isNext, left⟩ := stepsLeft_of_exec course isAtStart
  cases isClient.symm.trans isNext
  have two : stepsLeft (client.caller.client : Client σ).stage = 2 := rfl
  rw [two] at left
  refine ⟨Nat.le_of_add_right_le left, ?_⟩
  cases isStage : client.stage with
  | settled outcome => exact Or.inl ⟨outcome, rfl⟩
  | asking =>
    rw [isStage] at left
    exact Or.inr ⟨Nat.lt_of_lt_of_le (Nat.lt_add_of_pos_right (by decide)) left,
      exists_turn sink isClient (by simp [isStage])⟩
  | creating =>
    rw [isStage] at left
    exact Or.inr ⟨Nat.lt_of_lt_of_le (Nat.lt_add_of_pos_right (by decide)) left,
      exists_turn sink isClient (by simp [isStage])⟩

end Shared

/-! ### A client by itself -/

/-- What the write of a client has come to, if it is over with its index. -/
def Client.written? (client : Client σ) : Option (Outcome WriteReport) :=
  match client.stage, client.caller.cargo, client.delivery with
  | .settled (.error failure), _, _ => some (.error failure)
  | .settled (.ok ()), some cargo, some delivery => some (Writer.outcomeOf cargo.1 delivery)
  | _, _, _ => none

/-- Bulk calls wait, and a client that could not make sure of its index makes none and reports
why. -/
structure Shared.Orderly (shared : Shared σ) : Prop where
  wait : CallsWait shared.journal
  fails : ∀ position index failure,
    (position, .ensured index (.error failure)) ∈ shared.journal →
      (∃ client, shared.clients[position]? = some client ∧
        client.written? = some (.error failure)) ∧
      ∀ other documents, (position, .called other documents) ∉ shared.journal

theorem Shared.orderly_of_exec
    {sink : Sink σ}
    {state : σ}
    {callers : List Caller}
    {turns : List (Nat × Action)}
    {after : Shared σ}
    (course : (new state callers).exec sink turns = some after) :
    after.Orderly := by
  have sound := sound_of_exec course
  refine ⟨sound.wait, fun position index failure isNote => ?_⟩
  obtain ⟨client, isClient, minds⟩ := sound.exists_client isNote
  have isSettled := (minds.ensured index _ isNote).2
  refine ⟨⟨client, isClient, by simp [Client.written?, isSettled]⟩, ?_⟩
  intro other documents isCall
  rw [(minds.called other documents isCall).2] at isSettled
  cases isSettled

namespace Shared

variable {sink : Sink σ}

theorem exec_append (sink : Sink σ) (shared : Shared σ) (first second : List (Nat × Action)) :
    shared.exec sink (first ++ second) =
      (shared.exec sink first).bind (fun between => between.exec sink second) := by
  induction first generalizing shared with
  | nil => rfl
  | cons turn rest inductionHypothesis =>
    rw [List.cons_append, exec, exec]
    cases shared.step sink turn with
    | none => rfl
    | some after => exact inductionHypothesis after

/-- Both steps of one client, and nobody else. -/
theorem exec_ensure (sink : Sink σ) (caller : Caller) (state : σ) :
    let ensured := Index.ensure sink caller.settings caller.index state
    ∃ turns, (new state [caller]).exec sink turns =
      some ⟨ensured.2, [caller.client.settle sink ensured.1 ensured.2],
        [(0, .ensured caller.index ensured.1)]⟩ := by
  simp only [Index.ensure_eq]
  cases found : sink.indexExists state caller.index with
  | mk outcome asked =>
    rcases outcome with failure | (_ | _)
    · refine ⟨[(0, .ensure)], ?_⟩
      simp [exec, step, new, Caller.client, Client.act, Client.ensure, Stage.step, found]
    · cases made : sink.createIndex asked caller.index caller.settings with
      | mk creation after =>
        refine ⟨[(0, .ensure), (0, .ensure)], ?_⟩
        cases creation <;>
          simp [exec, step, new, Caller.client, Client.act, Client.ensure, Stage.step, found, made,
            Client.settle]
    · refine ⟨[(0, .ensure)], ?_⟩
      simp [exec, step, new, Caller.client, Client.act, Client.ensure, Stage.step, found]

/-- The delivery of one client, and nobody else. -/
theorem exec_deliver
    {choices : List Choice}
    {client : Client σ}
    {delivery final : Delivery σ}
    (writes : client.delivery = some delivery)
    (course : delivery.exec sink choices = some final)
    (journal : List (Nat × Note)) :
    ∃ journal', exec sink ⟨delivery.sink, [client], journal⟩
        (choices.map (fun choice => (0, .deliver choice))) =
      some ⟨final.sink, [{ client with delivery := some final }], journal'⟩ := by
  induction choices generalizing client delivery journal with
  | nil =>
    cases course
    refine ⟨journal, ?_⟩
    simp [exec, ← writes]
  | cons choice rest inductionHypothesis =>
    obtain ⟨next, stepped, course⟩ := Option.bind_eq_some_iff.mp course
    have here : step sink ⟨delivery.sink, [client], journal⟩ (0, .deliver choice) =
        some ⟨next.sink, [{ client with delivery := some next }],
          journal ++ ((delivery.startsBy next).map
            (fun start => Note.called start.index start.chunk)).map (Prod.mk 0)⟩ := by
      simp [step, Client.act, Client.deliver, writes, stepped]
    rw [List.map_cons, exec, here, Option.bind_some]
    exact inductionHypothesis rfl course _

/-- A write is what a client does that has the sink for itself. -/
theorem exec_of_write
    (writer : Writer σ)
    (options : WriteOptions)
    {batch : Batch}
    (index : String)
    (state : σ)
    (someDocument : batch.documents ≠ []) :
    ∃ turns after client,
      (new state [⟨index, writer.settings, writer.poolSize, some (options, batch)⟩]).exec
        writer.sink turns = some after ∧
      after.clients = [client] ∧
      client.written? = some (writer.write options batch index state).1 ∧
      after.state = (writer.write options batch index state).2 := by
  obtain ⟨turns, course⟩ := exec_ensure writer.sink
    ⟨index, writer.settings, writer.poolSize, some (options, batch)⟩ state
  cases ensures : Index.ensure writer.sink writer.settings index state with
  | mk outcome ensured =>
    simp only [ensures] at course
    cases outcome with
    | error failure =>
      refine ⟨turns, _, _, course, rfl, ?_⟩
      rw [Writer.write, if_neg (by simpa using someDocument), ensures]
      exact ⟨rfl, rfl⟩
    | ok _ =>
      obtain ⟨logged, ⟨between, choices, ensures', executed⟩, returned, -⟩ :=
        writer.write_of_ensured options batch index state ensured someDocument ensures
          (fun _ _ _ _ _ _ _ _ => trivial) trivial
      cases ensures.symm.trans ensures'
      have delivered := Logged.exec_toDelivery writer.sink
        (Logged.new (writer.delivery options batch index ensured)) choices
      rw [executed] at delivered
      have writes : (Client.settle writer.sink (Caller.client
          ⟨index, writer.settings, writer.poolSize, some (options, batch)⟩)
            (.ok ()) ensured).delivery =
          some (writer.delivery options batch index ensured) := rfl
      obtain ⟨journal, later⟩ := exec_deliver writes delivered.symm [(0, .ensured index (.ok ()))]
      have whole := exec_append writer.sink
        (new state [⟨index, writer.settings, writer.poolSize, some (options, batch)⟩]) turns
        (choices.map fun choice => (0, .deliver choice))
      rw [course, Option.bind_some] at whole
      refine ⟨_, _, _, whole.trans later, rfl, ?_⟩
      rw [returned]
      exact ⟨rfl, rfl⟩

end Shared

end RepoVitals.Bulk

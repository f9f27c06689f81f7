import RepoVitals.Bulk.Write
/-!
Sinks under watch.

Owns:
- the contacts with a sink (questions about an index, creations and bulk calls), and the sink that
  notes each of them;
- `write_plain`: a write takes the same course whether its sink is watched or not;
- `contacts_of_write`: a write has contacts about its own index only, and no bulk call among them
  unless the index could be ensured.
-/

namespace RepoVitals

open Bulk (Choice Delivery WriteOptions Writer)
open Index (Settings Stage)

variable {σ : Type}

namespace Sink

/-- One use of a sink. -/
inductive Contact where
  | existence (index : String)
  | creation (index : String) (settings : Settings)
  | bulk (index : String) (documents : List Entry)
  deriving DecidableEq

namespace Contact

/-- The index that a contact is about. -/
def index : Contact → String
  | .existence index => index
  | .creation index _ => index
  | .bulk index _ => index

/-- What a write has to do with its sink: it asks for its index, which it may create, and then makes
bulk calls. -/
def ofWrite (index : String) (settings : Settings) (creates : Bool)
    (chunks : List (List Entry)) : List Contact :=
  .existence index ::
    ((if creates then [.creation index settings] else []) ++ chunks.map (.bulk index))

end Contact

/-- The state of a sink with all contacts so far, oldest first. -/
structure Watched (σ : Type) where
  plain : σ
  contacts : List Contact

namespace Watched

/-- The state after one more contact. -/
def noting (watched : Watched σ) (contact : Contact) (after : σ) : Watched σ :=
  ⟨after, watched.contacts ++ [contact]⟩

end Watched

end Sink

open Sink (Contact Watched)

/-- The sink that notes every contact.  The end of a bulk call is none, since the call was noted
when it started. -/
def Sink.watched (sink : Sink σ) : Sink (Watched σ) where
  indexExists state index :=
    let (found, after) := sink.indexExists state.plain index
    (found, state.noting (.existence index) after)
  createIndex state index settings :=
    let (created, after) := sink.createIndex state.plain index settings
    (created, state.noting (.creation index settings) after)
  takeOff state index documents :=
    let (flight, after) := sink.takeOff state.plain index documents
    (flight, state.noting (.bulk index documents) after)
  land state index documents flight :=
    let (landing, after) := sink.land state.plain index documents flight
    (landing, { state with plain := after })

@[simp] theorem Sink.indexExists_watched (sink : Sink σ) (state : Watched σ) (index : String) :
    sink.watched.indexExists state index =
      ((sink.indexExists state.plain index).1,
        state.noting (.existence index) (sink.indexExists state.plain index).2) :=
  rfl

@[simp] theorem Sink.createIndex_watched (sink : Sink σ) (state : Watched σ) (index : String)
    (settings : Settings) :
    sink.watched.createIndex state index settings =
      ((sink.createIndex state.plain index settings).1,
        state.noting (.creation index settings)
          (sink.createIndex state.plain index settings).2) :=
  rfl

namespace Bulk

/-- The writer whose sink notes every contact. -/
def Writer.watched (writer : Writer σ) : Writer (Watched σ) :=
  { writer with sink := writer.sink.watched }

/-! ### Nobody notices the watch -/

/-- The delivery without the notes. -/
def Delivery.plain (delivery : Delivery (Watched σ)) : Delivery σ :=
  { delivery with sink := delivery.sink.plain }

namespace Delivery

variable (sink : Sink σ) (delivery : Delivery (Watched σ))

theorem quietly_plain (event : Event) :
    (delivery.quietly event).map plain = delivery.plain.quietly event := by
  simp only [quietly, Option.map_map]
  rfl

theorem send_plain (part : Nat) :
    (delivery.send sink.watched part).map plain = delivery.plain.send sink part := by
  simp only [send, Option.bind_eq_bind]
  show _ = (delivery.writing.step (.send part)).bind _
  cases delivery.writing.step (.send part) with
  | none => rfl
  | some writing =>
    simp only [Option.bind_some]
    split <;> rfl

theorem land_plain (part : Nat) :
    (delivery.land sink.watched part).map plain = delivery.plain.land sink part := by
  obtain ⟨index, writing, state, airborne⟩ := delivery
  show _ = (⟨index, writing, state.plain, airborne⟩ : Delivery σ).land sink part
  simp only [land, Option.bind_eq_bind]
  cases airborne.find? (fun call => call.part = part) with
  | none => rfl
  | some call =>
    simp only [Option.bind_some]
    by_cases early : writing.clock < call.due
    · rw [if_pos early, if_pos early]
      rfl
    · rw [if_neg early, if_neg early]
      simp only [Sink.watched]
      cases writing.step (eventOf part (sink.land state.plain index call.chunk call.flight).1) <;>
        rfl

theorem cut_plain (part : Nat) : (delivery.cut part).map plain = delivery.plain.cut part := by
  simp only [cut, Option.bind_eq_bind]
  show _ = (delivery.writing.step (.cut part)).bind _
  cases delivery.writing.step (.cut part) <;> rfl

theorem pass_plain (nanoseconds : Nat) :
    (delivery.pass nanoseconds).map plain = delivery.plain.pass nanoseconds := by
  obtain ⟨index, writing, state, airborne⟩ := delivery
  show _ = (⟨index, writing, state.plain, airborne⟩ : Delivery σ).pass nanoseconds
  simp only [pass]
  by_cases waits : airborne.all (fun call => writing.clock + nanoseconds ≤ call.due) = true
  · rw [if_pos waits, if_pos waits]
    exact quietly_plain ⟨index, writing, state, airborne⟩ _
  · rw [if_neg waits, if_neg waits]
    rfl

theorem step_plain (choice : Choice) :
    (delivery.step sink.watched choice).map plain = delivery.plain.step sink choice := by
  cases choice with
  | accept => exact delivery.quietly_plain _
  | start => exact delivery.quietly_plain _
  | send part => exact delivery.send_plain sink part
  | land part => exact delivery.land_plain sink part
  | cut part => exact delivery.cut_plain part
  | pass nanoseconds => exact delivery.pass_plain nanoseconds
  | conclude => exact delivery.quietly_plain _

theorem follow_plain (limit : Nat) (delivery : Delivery (Watched σ)) :
    (delivery.follow sink.watched limit).plain = delivery.plain.follow sink limit := by
  induction limit generalizing delivery with
  | zero => rfl
  | succ limit inductionHypothesis =>
    have sameNext : delivery.plain.next? = delivery.next? := rfl
    unfold follow
    rw [sameNext]
    cases delivery.next? with
    | none => rfl
    | some choice =>
      rw [Option.bind_some, Option.bind_some, ← delivery.step_plain]
      cases delivery.step sink.watched choice with
      | none => rfl
      | some after => exact inductionHypothesis after

end Delivery
end Bulk

/-! ### The index comes first -/

namespace Index

/-- What becomes of a client that makes sure of an index. -/
theorem ensure_eq (sink : Sink σ) (settings : Settings) (index : String) (state : σ) :
    ensure sink settings index state =
      match sink.indexExists state index with
      | (.error failure, after) => (.error (failure.within (.askingForIndex index)), after)
      | (.ok true, after) => (.ok (), after)
      | (.ok false, asked) =>
        match sink.createIndex asked index settings with
        | (.error failure, after) => (.error (failure.within (.creatingIndex index)), after)
        | (.ok _, after) => (.ok (), after) := by
  unfold ensure Stage.step
  rcases sink.indexExists state index with ⟨found | found, asked⟩
  · rfl
  · cases found with
    | true => rfl
    | false =>
      simp only
      rcases sink.createIndex asked index settings with ⟨made | made, after⟩ <;> rfl

theorem ensure_plain (sink : Sink σ) (settings : Settings) (index : String) (state : Watched σ) :
    ((ensure sink.watched settings index state).1,
        (ensure sink.watched settings index state).2.plain) =
      ensure sink settings index state.plain := by
  rw [ensure_eq, ensure_eq, Sink.indexExists_watched]
  rcases sink.indexExists state.plain index with ⟨found | found, asked⟩
  · rfl
  · cases found with
    | true => rfl
    | false =>
      simp only [Sink.createIndex_watched, Watched.noting]
      rcases sink.createIndex asked index settings with ⟨made | made, after⟩ <;> rfl

end Index

namespace Bulk.Writer

variable (writer : Writer σ) (options : WriteOptions) (batch : Batch) (index : String)
  (state : Watched σ)

/-- A write takes the same course whether its sink is watched or not. -/
theorem write_plain :
    ((writer.watched.write options batch index state).1,
        (writer.watched.write options batch index state).2.plain) =
      writer.write options batch index state.plain := by
  unfold write
  by_cases nothing : batch.documents.isEmpty
  · rw [if_pos nothing, if_pos nothing]
  · have ensures : ((Index.ensure writer.watched.sink writer.watched.settings index state).1,
        (Index.ensure writer.watched.sink writer.watched.settings index state).2.plain) =
        Index.ensure writer.sink writer.settings index state.plain :=
      Index.ensure_plain writer.sink writer.settings index state
    rw [if_neg nothing, if_neg nothing, ← ensures]
    rcases Index.ensure writer.watched.sink writer.watched.settings index state with
      ⟨ensured | ensured, after⟩
    · rfl
    · -- Both deliveries start with the same writing, and so have the same limit of choices.
      obtain ⟨⟩ := ensured
      have start : (writer.watched.delivery options batch index after).plain =
        writer.delivery options batch index after.plain := rfl
      have final := Delivery.follow_plain writer.sink
        (writer.delivery options batch index after.plain).choiceLimit
        (writer.watched.delivery options batch index after)
      rw [start] at final
      simp only [← final]
      rfl

end Bulk.Writer

/-! ### Contacts -/

namespace Sink.Watched

/-- Nothing but bulk calls at the index came in. -/
def Called (index : String) (before after : Watched σ) : Prop :=
  ∃ chunks : List (List Entry),
    after.contacts = before.contacts ++ chunks.map (Contact.bulk index)

theorem Called.of_same
    {index : String}
    {before after : Watched σ}
    (same : after.contacts = before.contacts) :
    before.Called index after :=
  ⟨[], by simpa using same⟩

theorem Called.trans
    {index : String}
    {before between after : Watched σ}
    (first : before.Called index between)
    (second : between.Called index after) :
    before.Called index after := by
  obtain ⟨chunks, isFirst⟩ := first
  obtain ⟨others, isSecond⟩ := second
  refine ⟨chunks ++ others, ?_⟩
  rw [isSecond, isFirst, List.append_assoc, List.map_append]

end Sink.Watched

namespace Bulk.Delivery

variable {sink : Sink σ} {delivery after : Delivery (Watched σ)}

theorem called_of_quietly
    {event : Event}
    (stepped : delivery.quietly event = some after) :
    after.index = delivery.index ∧ delivery.sink.Called delivery.index after.sink := by
  obtain ⟨writing, _, rfl⟩ := Option.map_eq_some_iff.mp stepped
  exact ⟨rfl, .of_same rfl⟩

theorem called_of_send
    {part : Nat}
    (stepped : delivery.send sink.watched part = some after) :
    after.index = delivery.index ∧ delivery.sink.Called delivery.index after.sink := by
  simp only [send, Option.bind_eq_bind] at stepped
  obtain ⟨writing, _, stepped⟩ := Option.bind_eq_some_iff.mp stepped
  split at stepped
  · rename_i chunk _
    cases stepped
    exact ⟨rfl, [chunk], rfl⟩
  · cases stepped
    exact ⟨rfl, .of_same rfl⟩

theorem called_of_land
    {part : Nat}
    (stepped : delivery.land sink.watched part = some after) :
    after.index = delivery.index ∧ delivery.sink.Called delivery.index after.sink := by
  simp only [land, Option.bind_eq_bind] at stepped
  obtain ⟨call, _, stepped⟩ := Option.bind_eq_some_iff.mp stepped
  split at stepped
  · cases stepped
  · obtain ⟨writing, _, stepped⟩ := Option.bind_eq_some_iff.mp stepped
    cases stepped
    exact ⟨rfl, .of_same rfl⟩

theorem called_of_step
    {choice : Choice}
    (stepped : delivery.step sink.watched choice = some after) :
    after.index = delivery.index ∧ delivery.sink.Called delivery.index after.sink := by
  cases choice with
  | accept => exact called_of_quietly stepped
  | start => exact called_of_quietly stepped
  | send part => exact called_of_send stepped
  | land part => exact called_of_land stepped
  | cut part =>
    simp only [step, cut, Option.bind_eq_bind] at stepped
    obtain ⟨writing, _, stepped⟩ := Option.bind_eq_some_iff.mp stepped
    cases stepped
    exact ⟨rfl, .of_same rfl⟩
  | pass nanoseconds =>
    simp only [step, pass] at stepped
    split at stepped
    · exact called_of_quietly stepped
    · cases stepped
  | conclude => exact called_of_quietly stepped

theorem called_of_follow (sink : Sink σ) (limit : Nat) (delivery : Delivery (Watched σ)) :
    delivery.sink.Called delivery.index (delivery.follow sink.watched limit).sink := by
  induction limit generalizing delivery with
  | zero => exact .of_same rfl
  | succ limit inductionHypothesis =>
    unfold follow
    cases stepped : delivery.next?.bind (delivery.step sink.watched) with
    | none => exact .of_same rfl
    | some after =>
      obtain ⟨choice, _, taken⟩ := Option.bind_eq_some_iff.mp stepped
      obtain ⟨sameIndex, called⟩ := called_of_step taken
      have later := inductionHypothesis after
      rw [sameIndex] at later
      exact called.trans later

end Bulk.Delivery

theorem Index.contacts_of_ensure
    (sink : Sink σ)
    (settings : Settings)
    (index : String)
    (state : Watched σ) :
    ∃ creates, (ensure sink.watched settings index state).2.contacts =
      state.contacts ++ Contact.ofWrite index settings creates [] := by
  rw [ensure_eq, Sink.indexExists_watched]
  rcases sink.indexExists state.plain index with ⟨found | found, asked⟩
  · exact ⟨false, rfl⟩
  · cases found with
    | true => exact ⟨false, rfl⟩
    | false =>
      refine ⟨true, ?_⟩
      simp only [Sink.createIndex_watched, Watched.noting]
      rcases sink.createIndex asked index settings with ⟨made | made, after⟩ <;>
        simp [Contact.ofWrite]

namespace Bulk.Writer

variable (writer : Writer σ) (options : WriteOptions) {batch : Batch} (index : String)
  (state : Watched σ)

theorem write_of_empty
    {σ : Type}
    (writer : Writer σ)
    (options : WriteOptions)
    {batch : Batch}
    (index : String)
    (state : σ)
    (nothing : batch.documents = []) :
    writer.write options batch index state = (.ok (nothingToWrite index), state) := by
  rw [write, nothing]
  rfl

/-- A write asks for its index before anything else, and makes bulk calls only if it is there. -/
theorem contacts_of_write (someDocument : batch.documents ≠ []) :
    ∃ creates chunks,
      (writer.watched.write options batch index state).2.contacts =
        state.contacts ++ Contact.ofWrite index writer.settings creates chunks ∧
      ((Index.ensure writer.watched.sink writer.settings index state).1 ≠ .ok () →
        chunks = []) := by
  have nonempty : ¬batch.documents.isEmpty = true := by simpa using someDocument
  obtain ⟨creates, ensures⟩ : ∃ creates,
      (Index.ensure writer.watched.sink writer.watched.settings index state).2.contacts =
        state.contacts ++ Contact.ofWrite index writer.settings creates [] :=
    Index.contacts_of_ensure writer.sink writer.settings index state
  refine ⟨creates, ?_⟩
  rw [write, if_neg nonempty]
  show ∃ chunks, _ ∧
    ((Index.ensure writer.watched.sink writer.watched.settings index state).1 ≠ .ok () →
      chunks = [])
  generalize Index.ensure writer.watched.sink writer.watched.settings index state = ensured
    at ensures ⊢
  obtain ⟨failure | ⟨⟩, after⟩ := ensured
  · exact ⟨[], ensures, fun _ => rfl⟩
  · obtain ⟨chunks, called⟩ := Delivery.called_of_follow writer.sink
      (writer.watched.delivery options batch index after).choiceLimit
      (writer.watched.delivery options batch index after)
    refine ⟨chunks, called.trans ?_, ?_⟩
    · show after.contacts ++ chunks.map (Contact.bulk index) = _
      rw [show after.contacts = _ from ensures]
      simp [Contact.ofWrite]
    · intro unsure
      exact absurd rfl unsure

end Bulk.Writer

end RepoVitals

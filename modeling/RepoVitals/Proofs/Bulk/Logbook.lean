import Mathlib.Data.List.Basic
import Mathlib.Logic.Relation
import RepoVitals.Bulk.Write
/-!
Logbook: deliveries that remember their calls.

Owns:
- the history of a delivery: every call that took off and every call that landed, in order, each
  with its part and the time;
- `Logged.Moves`, everything that one choice can do to a delivery and its history;
- `course_of_exec`: a run of choices is a course of such moves;
- `Writer.Reaches`: where a write can get to, whatever time and workers choose.

The history is a by-stander: `exec_toDelivery` says that a delivery takes the same course without
it.
-/

namespace RepoVitals.Bulk

open Sink (Flight Landing)

/-! ### The history -/

/-- A call as it took off. -/
structure Start where
  part : Nat
  time : Nat
  due : Nat
  index : String
  chunk : List Entry

/-- A call as it landed. -/
structure Arrival where
  part : Nat
  time : Nat
  chunk : List Entry
  landing : Landing

/-- A delivery with its history. -/
structure Logged (σ : Type) extends Delivery σ where
  starts : List Start
  arrivals : List Arrival

variable {σ : Type}

/-- The calls that are in the air only afterwards. -/
def Delivery.startsBy (before after : Delivery σ) : List Start :=
  (after.airborne.drop before.airborne.length).map (fun call =>
    ⟨call.part, before.writing.clock, call.due, before.index, call.chunk⟩)

/-- The call that a choice lets land. -/
def Delivery.arrivalsBy (sink : Sink σ) (before : Delivery σ) : Choice → List Arrival
  | .land part =>
    (before.airborne.find? (fun call => call.part = part)).toList.map (fun call =>
      ⟨call.part, before.writing.clock, call.chunk,
        (sink.land before.sink before.index call.chunk call.flight).1⟩)
  | _ => []

theorem Delivery.startsBy_of_length_le {before after : Delivery σ}
    (noMore : after.airborne.length ≤ before.airborne.length) : before.startsBy after = [] := by
  rw [startsBy, List.drop_eq_nil_of_le noMore, List.map_nil]

namespace Logged

/-- A delivery whose history begins. -/
def new (delivery : Delivery σ) : Logged σ := ⟨delivery, [], []⟩

/-- The delivery after a choice, with the history continued. -/
def step (sink : Sink σ) (logged : Logged σ) (choice : Choice) : Option (Logged σ) :=
  (logged.toDelivery.step sink choice).map (fun after =>
    ⟨after, logged.starts ++ logged.startsBy after,
      logged.arrivals ++ logged.arrivalsBy sink choice⟩)

/-- The delivery after a sequence of choices, with the history continued. -/
def exec (sink : Sink σ) (logged : Logged σ) : List Choice → Option (Logged σ)
  | [] => some logged
  | choice :: rest => (logged.step sink choice).bind (fun after => after.exec sink rest)

/-- The history changes nothing. -/
theorem exec_toDelivery (sink : Sink σ) (logged : Logged σ) (choices : List Choice) :
    (logged.exec sink choices).map Logged.toDelivery =
      logged.toDelivery.exec sink choices := by
  induction choices generalizing logged with
  | nil => rfl
  | cons choice rest inductionHypothesis =>
    simp only [exec, Delivery.exec, step]
    cases logged.toDelivery.step sink choice with
    | none => rfl
    | some after => exact inductionHypothesis _

end Logged

/-! ### Changing one part -/

/-- The write with another part at a position. -/
def Writing.put (writing : Writing) (position : Nat) (next : Partition) : Writing :=
  { writing with parts := writing.parts.set position next }

theorem Writing.update_eq_put {writing : Writing} {position : Nat} {part : Partition}
    (found : writing.parts[position]? = some part) (change : Partition → Partition) :
    writing.update position change = writing.put position (change part) := by
  simp [Writing.update, Writing.put, List.modify_eq_set_getElem?, found]

/-- What a part can do without the sink. -/
inductive Partition.Shift (writing : Writing) (part : Partition) : Partition → Prop where
  | accepted (waits : part.progress = .waiting) (unconcluded : writing.conclusion = none) :
      part.Shift writing { part with progress := .queued }
  | taken (queued : part.progress = .queued) : part.Shift writing part.proceed
  | stopped (ready : part.progress = .ready) (late : writing.deadline ≤ writing.clock) :
      part.Shift writing { part with progress := .abandoned part.unsent.length }

/-- What a landing does to the part whose call it was. -/
def Partition.landed (part : Partition) (chunk : List Entry) : Landing → Partition
  | .answered outcome => part.receive chunk outcome
  | .panicked => { part with progress := .panicked }

namespace Writing

variable {writing after : Writing} {position : Nat}

theorem shift_of_accept (stepped : writing.step .accept = some after) :
    ∃ position part next, writing.parts[position]? = some part ∧ part.Shift writing next ∧
      after = writing.put position next := by
  simp only [step] at stepped
  split at stepped
  · rename_i free
    obtain ⟨position, found, rfl⟩ := Option.map_eq_some_iff.mp stepped
    obtain ⟨inside, waits, -⟩ := List.findIdx?_eq_some_iff_getElem.mp found
    have isThere := List.getElem?_eq_getElem inside
    exact ⟨position, _, _, isThere, .accepted (of_decide_eq_true waits) free.2,
      update_eq_put isThere _⟩
  · cases stepped

theorem shift_of_start (stepped : writing.step .start = some after) :
    ∃ position part next, writing.parts[position]? = some part ∧ part.Shift writing next ∧
      after = writing.put position next := by
  simp only [step] at stepped
  split at stepped
  · obtain ⟨position, found, rfl⟩ := Option.map_eq_some_iff.mp stepped
    obtain ⟨inside, queued, -⟩ := List.findIdx?_eq_some_iff_getElem.mp found
    have isThere := List.getElem?_eq_getElem inside
    exact ⟨position, _, _, isThere, .taken (of_decide_eq_true queued), update_eq_put isThere _⟩
  · cases stepped

/-- A part that is to make its next call finds the deadline passed, or makes the call. -/
theorem cases_of_send (stepped : writing.step (.send position) = some after) :
    ∃ part, writing.parts[position]? = some part ∧ part.progress = .ready ∧
      (writing.deadline ≤ writing.clock ∧
          after = writing.put position { part with progress := .abandoned part.unsent.length } ∨
        writing.clock < writing.deadline ∧
          after = writing.put position (part.dispatch writing.batchSize)) := by
  simp only [step, Option.bind_eq_bind] at stepped
  obtain ⟨part, found, stepped⟩ := Option.bind_eq_some_iff.mp stepped
  refine ⟨part, found, ?_⟩
  split at stepped
  · cases stepped
  · rename_i ready
    refine ⟨not_not.mp ready, ?_⟩
    split at stepped <;> cases stepped
    · rename_i late
      exact .inl ⟨of_decide_eq_true late, update_eq_put found _⟩
    · rename_i early
      exact .inr ⟨Nat.lt_of_not_le fun late => early (decide_eq_true late), update_eq_put found _⟩

theorem landed_of_event {landing : Landing}
    (stepped : writing.step (Delivery.eventOf position landing) = some after) :
    ∃ part chunk, writing.parts[position]? = some part ∧ part.progress = .sending chunk ∧
      after = writing.put position (part.landed chunk landing) := by
  cases landing <;>
  · simp only [Delivery.eventOf, step, Option.bind_eq_bind] at stepped
    obtain ⟨part, found, stepped⟩ := Option.bind_eq_some_iff.mp stepped
    split at stepped
    · rename_i chunk sending
      cases stepped
      exact ⟨part, chunk, found, sending, update_eq_put found _⟩
    · cases stepped

theorem abandoned_of_cut (stepped : writing.step (.cut position) = some after) :
    ∃ part chunk, writing.parts[position]? = some part ∧ part.progress = .sending chunk ∧
      writing.deadline ≤ writing.clock ∧
      after = writing.put position
        { part with progress := .abandoned (chunk.length + part.unsent.length) } := by
  simp only [step, Option.bind_eq_bind] at stepped
  obtain ⟨part, found, stepped⟩ := Option.bind_eq_some_iff.mp stepped
  split at stepped
  · rename_i chunk sending
    split at stepped <;> cases stepped
    rename_i late
    exact ⟨part, chunk, found, sending, of_decide_eq_true late, update_eq_put found _⟩
  · cases stepped

end Writing

/-! ### Moves -/

namespace Logged

/-- Everything that one choice can do to a delivery and its history. -/
inductive Moves (sink : Sink σ) (before : Logged σ) : Logged σ → Prop where
  /-- A part gets on without the sink. -/
  | shift (position : Nat) (part next : Partition)
      (found : before.writing.parts[position]? = some part)
      (shift : part.Shift before.writing next) :
      Moves sink before { before with writing := before.writing.put position next }
  /-- A call takes off. -/
  | dispatch (position : Nat) (part : Partition) (chunk : List Entry) (flight : Flight) (state : σ)
      (found : before.writing.parts[position]? = some part)
      (ready : part.progress = .ready)
      (early : before.writing.clock < before.writing.deadline)
      (taken : chunk = part.unsent.take before.writing.batchSize)
      (flies : sink.takeOff before.sink before.index chunk = (flight, state)) :
      Moves sink before { before with
        writing := before.writing.put position (part.dispatch before.writing.batchSize)
        sink := state
        airborne := before.airborne ++
          [⟨position, chunk, before.writing.clock + flight.delay, flight⟩]
        starts := before.starts ++
          [⟨position, before.writing.clock, before.writing.clock + flight.delay, before.index,
            chunk⟩] }
  /-- A call lands. -/
  | land (call : Airborne) (part : Partition) (chunk : List Entry) (landing : Landing) (state : σ)
      (aloft : call ∈ before.airborne)
      (found : before.writing.parts[call.part]? = some part)
      (sending : part.progress = .sending chunk)
      (due : call.due ≤ before.writing.clock)
      (lands : sink.land before.sink before.index call.chunk call.flight = (landing, state)) :
      Moves sink before { before with
        writing := before.writing.put call.part (part.landed chunk landing)
        sink := state
        airborne := before.airborne.filter (fun other => other.part ≠ call.part)
        arrivals := before.arrivals ++
          [⟨call.part, before.writing.clock, call.chunk, landing⟩] }
  /-- The deadline cuts a call off. -/
  | cut (position : Nat) (part : Partition) (chunk : List Entry)
      (found : before.writing.parts[position]? = some part)
      (sending : part.progress = .sending chunk)
      (late : before.writing.deadline ≤ before.writing.clock) :
      Moves sink before { before with
        writing := before.writing.put position
          { part with progress := .abandoned (chunk.length + part.unsent.length) }
        airborne := before.airborne.filter (fun other => other.part ≠ position) }
  /-- Time goes by. -/
  | pass (nanoseconds : Nat)
      (waits : ∀ call ∈ before.airborne, before.writing.clock + nanoseconds ≤ call.due)
      (may : before.writing.mayPass nanoseconds = true) :
      Moves sink before { before with
        writing := { before.writing with clock := before.writing.clock + nanoseconds } }
  /-- The verdict is given. -/
  | conclude (conclusion : Conclusion)
      (unconcluded : before.writing.conclusion = none)
      (now : before.writing.conclusionNow? = some conclusion) :
      Moves sink before { before with
        writing := { before.writing with conclusion := some conclusion } }

theorem quiet_of_step {sink : Sink σ} {before after : Logged σ} {choice : Choice}
    {event : Event}
    (quiet : before.toDelivery.step sink choice = before.toDelivery.quietly event)
    (silent : before.arrivalsBy sink choice = [])
    (stepped : before.step sink choice = some after) :
    ∃ writing, before.writing.step event = some writing ∧
      after = { before with writing := writing } := by
  simp only [step, quiet, silent, Delivery.quietly] at stepped
  obtain ⟨delivery, moved, rfl⟩ := Option.map_eq_some_iff.mp stepped
  obtain ⟨writing, happened, rfl⟩ := Option.map_eq_some_iff.mp moved
  refine ⟨writing, happened, ?_⟩
  simp only [Delivery.startsBy_of_length_le, Nat.le_refl, List.append_nil]

private theorem moves_of_send {sink : Sink σ} {before after : Logged σ} {position : Nat}
    (stepped : before.step sink (.send position) = some after) : Moves sink before after := by
  obtain ⟨delivery, moved, rfl⟩ := Option.map_eq_some_iff.mp stepped
  simp only [Delivery.step, Delivery.send, Option.bind_eq_bind] at moved
  obtain ⟨writing, happened, moved⟩ := Option.bind_eq_some_iff.mp moved
  obtain ⟨part, found, ready, cases⟩ := Writing.cases_of_send happened
  have inside : position < before.writing.parts.length := (List.getElem?_eq_some_iff.mp found).1
  rcases cases with ⟨late, rfl⟩ | ⟨early, rfl⟩
  · simp only [Writing.put, List.getElem?_set_self inside, Option.map_some] at moved
    cases moved
    simp only [Delivery.startsBy_of_length_le, Nat.le_refl, Delivery.arrivalsBy, List.append_nil]
    exact .shift position part _ found (.stopped ready late)
  · simp only [Writing.put, Partition.dispatch, List.getElem?_set_self inside, Option.map_some]
      at moved
    cases moved
    -- The call that took off is the last in the air.
    simp only [Delivery.startsBy, Delivery.arrivalsBy, List.drop_left, List.map_cons, List.map_nil,
      List.append_nil]
    exact .dispatch position part _ _ _ found ready early rfl rfl

private theorem moves_of_land {sink : Sink σ} {before after : Logged σ} {position : Nat}
    (stepped : before.step sink (.land position) = some after) : Moves sink before after := by
  obtain ⟨delivery, moved, rfl⟩ := Option.map_eq_some_iff.mp stepped
  simp only [Delivery.step, Delivery.land, Option.bind_eq_bind] at moved
  obtain ⟨call, first, moved⟩ := Option.bind_eq_some_iff.mp moved
  have aloft := List.mem_of_find?_eq_some first
  have same : call.part = position := by simpa using List.find?_some first
  split at moved
  · cases moved
  · rename_i due
    obtain ⟨writing, happened, moved⟩ := Option.bind_eq_some_iff.mp moved
    cases moved
    subst same
    obtain ⟨part, chunk, found, sending, rfl⟩ := Writing.landed_of_event happened
    simp only [Delivery.startsBy_of_length_le, List.length_filter_le, Delivery.arrivalsBy, first,
      Option.toList_some, List.map_cons, List.map_nil, List.append_nil]
    exact .land call part chunk _ _ aloft found sending (Nat.le_of_not_lt due) rfl

private theorem moves_of_cut {sink : Sink σ} {before after : Logged σ} {position : Nat}
    (stepped : before.step sink (.cut position) = some after) : Moves sink before after := by
  obtain ⟨delivery, moved, rfl⟩ := Option.map_eq_some_iff.mp stepped
  simp only [Delivery.step, Delivery.cut, Option.bind_eq_bind] at moved
  obtain ⟨writing, happened, moved⟩ := Option.bind_eq_some_iff.mp moved
  cases moved
  obtain ⟨part, chunk, found, sending, late, rfl⟩ := Writing.abandoned_of_cut happened
  simp only [Delivery.startsBy_of_length_le, List.length_filter_le, Delivery.arrivalsBy,
    List.append_nil]
  exact .cut position part chunk found sending late

/-- Every choice is a move. -/
theorem moves_of_step {sink : Sink σ} {before after : Logged σ} {choice : Choice}
    (stepped : before.step sink choice = some after) : Moves sink before after := by
  cases choice with
  | accept =>
    obtain ⟨writing, moved, rfl⟩ := quiet_of_step rfl rfl stepped
    obtain ⟨position, part, next, found, shift, rfl⟩ := Writing.shift_of_accept moved
    exact .shift position part next found shift
  | start =>
    obtain ⟨writing, moved, rfl⟩ := quiet_of_step rfl rfl stepped
    obtain ⟨position, part, next, found, shift, rfl⟩ := Writing.shift_of_start moved
    exact .shift position part next found shift
  | send position => exact moves_of_send stepped
  | land position => exact moves_of_land stepped
  | cut position => exact moves_of_cut stepped
  | pass nanoseconds =>
    obtain ⟨delivery, moved, rfl⟩ := Option.map_eq_some_iff.mp stepped
    simp only [Delivery.step, Delivery.pass] at moved
    split at moved
    · rename_i waits
      obtain ⟨writing, happened, rfl⟩ := Option.map_eq_some_iff.mp moved
      simp only [Writing.step] at happened
      split at happened <;> cases happened
      rename_i may
      simp only [Delivery.startsBy_of_length_le, Nat.le_refl, Delivery.arrivalsBy, List.append_nil]
      exact .pass nanoseconds (by simpa using waits) may
    · cases moved
  | conclude =>
    obtain ⟨writing, moved, rfl⟩ := quiet_of_step rfl rfl stepped
    simp only [Writing.step] at moved
    split at moved
    · rename_i unconcluded
      obtain ⟨conclusion, now, rfl⟩ := Option.map_eq_some_iff.mp moved
      exact .conclude conclusion unconcluded now
    · cases moved

/-! ### Courses -/

/-- A course of a delivery: any number of moves. -/
abbrev Course (sink : Sink σ) : Logged σ → Logged σ → Prop :=
  Relation.ReflTransGen (Moves sink)

theorem course_of_exec {sink : Sink σ} {choices : List Choice} {logged after : Logged σ}
    (executed : logged.exec sink choices = some after) : Course sink logged after := by
  induction choices generalizing logged with
  | nil =>
    cases executed
    exact .refl
  | cons choice rest inductionHypothesis =>
    obtain ⟨next, stepped, executed⟩ := Option.bind_eq_some_iff.mp executed
    exact .head (moves_of_step stepped) (inductionHypothesis executed)

end Logged

/-- Where a write that has ensured its index can get to, whatever time and workers choose. -/
def Writer.Reaches (writer : Writer σ) (options : WriteOptions) (batch : Batch) (index : String)
    (state : σ) (logged : Logged σ) : Prop :=
  ∃ ensured choices,
    Index.ensure writer.sink writer.settings index state = (.ok (), ensured) ∧
    (Logged.new (writer.delivery options batch index ensured)).exec writer.sink choices =
      some logged

theorem Writer.Reaches.course {writer : Writer σ} {options : WriteOptions} {batch : Batch}
    {index : String} {state : σ} {logged : Logged σ}
    (reached : writer.Reaches options batch index state logged) :
    ∃ ensured, Index.ensure writer.sink writer.settings index state = (.ok (), ensured) ∧
      Logged.Course writer.sink (Logged.new (writer.delivery options batch index ensured))
        logged := by
  obtain ⟨ensured, choices, ensures, executed⟩ := reached
  exact ⟨ensured, ensures, Logged.course_of_exec executed⟩

end RepoVitals.Bulk

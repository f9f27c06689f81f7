import RepoVitals.Proofs.Bulk.Serving
/-!
Twins: two writes of the same ids.

Owns:
- parts, writes and calls without the bodies of their documents, which take the same steps;
- `Delivery.Twins`: two deliveries that differ in bodies alone, to stores that go by the same, and
  what one step does to both of them;
- `write_twins`: two batches with the same ids are written with the same outcome.
-/

namespace RepoVitals

/-- The document without its body. -/
def Entry.bare (document : Entry) : Entry := ⟨document.id, ""⟩

end RepoVitals

namespace RepoVitals.Bulk

open Index (Settings)
open Sink (Memory)

/-- The progress of a part whose documents have no bodies. -/
def Progress.bare : Progress → Progress
  | .sending chunk => .sending (chunk.map Entry.bare)
  | progress => progress

/-- The part without the bodies of its documents. -/
def Partition.bare (part : Partition) : Partition where
  documents := part.documents.map Entry.bare
  unsent := part.unsent.map Entry.bare
  tally := part.tally
  progress := part.progress.bare

/-- The write without the bodies of its documents. -/
def Writing.bare (writing : Writing) : Writing :=
  { writing with parts := writing.parts.map Partition.bare }

/-- The call without the bodies of its documents. -/
def Airborne.bare (call : Airborne) : Airborne :=
  { call with chunk := call.chunk.map Entry.bare }

namespace Partition

variable (part : Partition)

@[simp] theorem isWaiting_bare : part.bare.isWaiting = part.isWaiting := by
  obtain ⟨_, _, _, progress⟩ := part
  cases progress <;> rfl

@[simp] theorem isQueued_bare : part.bare.isQueued = part.isQueued := by
  obtain ⟨_, _, _, progress⟩ := part
  cases progress <;> rfl

@[simp] theorem isRunning_bare : part.bare.isRunning = part.isRunning := by
  obtain ⟨_, _, _, progress⟩ := part
  cases progress <;> rfl

@[simp] theorem isFinished_bare : part.bare.isFinished = part.isFinished := by
  obtain ⟨_, _, _, progress⟩ := part
  cases progress <;> rfl

@[simp] theorem isAbandoned_bare : part.bare.isAbandoned = part.isAbandoned := by
  obtain ⟨_, _, _, progress⟩ := part
  cases progress <;> rfl

@[simp] theorem isSettled_bare : part.bare.isSettled = part.isSettled := by
  obtain ⟨_, _, _, progress⟩ := part
  cases progress <;> rfl

@[simp] theorem ready_bare : part.bare.progress = .ready ↔ part.progress = .ready := by
  obtain ⟨_, _, _, progress⟩ := part
  cases progress <;> simp [bare, Progress.bare]

@[simp] theorem account_bare : part.bare.account = part.account := by
  obtain ⟨_, _, _, progress⟩ := part
  cases progress <;> simp [bare, Progress.bare, account]

theorem proceed_bare : part.bare.proceed = part.proceed.bare := by
  unfold proceed
  by_cases none : part.unsent = [] <;> simp [bare, none, Progress.bare]

theorem dispatch_bare (batchSize : Nat) :
    part.bare.dispatch batchSize = (part.dispatch batchSize).bare := by
  simp [dispatch, bare, Progress.bare, List.map_take, List.map_drop]

theorem receive_bare (chunk : List Entry) (outcome : Outcome (List Verdict)) :
    part.bare.receive (chunk.map Entry.bare) outcome = (part.receive chunk outcome).bare := by
  rw [receive, receive, ← proceed_bare, List.length_map]
  rfl

end Partition

namespace Writing

variable (writing : Writing)

theorem put_bare (position : Nat) (next : Partition) :
    (writing.put position next).bare = writing.bare.put position next.bare := by
  simp only [put, bare, List.map_set]

variable {writing} {position : Nat} {part : Partition}

theorem found_bare (found : writing.parts[position]? = some part) :
    writing.bare.parts[position]? = some part.bare := by
  rw [bare, List.getElem?_map, found, Option.map_some]

theorem update_bare
    (found : writing.parts[position]? = some part)
    {change change' : Partition → Partition}
    (same : change' part.bare = (change part).bare) :
    writing.bare.update position change' = (writing.update position change).bare := by
  rw [update_eq_put found, update_eq_put (found_bare found), put_bare, same]

variable (writing)

theorem countP_bare {view : Partition → Bool}
    (same : ∀ part : Partition, view part.bare = view part) :
    writing.bare.parts.countP view = writing.parts.countP view := by
  rw [bare, List.countP_map]
  exact List.countP_congr fun part _ => by simp [same]

theorem findIdx?_bare {view : Partition → Bool}
    (same : ∀ part : Partition, view part.bare = view part) :
    writing.bare.parts.findIdx? view = writing.parts.findIdx? view := by
  rw [bare, List.findIdx?_map]
  exact congrArg (List.findIdx? · _) (funext same)

theorem all_bare {view : Partition → Bool}
    (same : ∀ part : Partition, view part.bare = view part) :
    writing.bare.parts.all view = writing.parts.all view := by
  rw [bare, List.all_map]
  exact congrArg (List.all _) (funext same)

theorem any_bare {view : Partition → Bool}
    (same : ∀ part : Partition, view part.bare = view part) :
    writing.bare.parts.any view = writing.parts.any view := by
  rw [bare, List.any_map]
  exact congrArg (List.any _) (funext same)

theorem hasRoom_bare : writing.bare.hasRoom = writing.hasRoom := by
  rw [hasRoom, writing.countP_bare Partition.isQueued_bare]
  rfl

theorem hasFreeWorker_bare : writing.bare.hasFreeWorker = writing.hasFreeWorker := by
  rw [hasFreeWorker, writing.countP_bare Partition.isRunning_bare]
  rfl

theorem conclusionNow?_bare : writing.bare.conclusionNow? = writing.conclusionNow? := by
  have late : writing.bare.isLate = writing.isLate := rfl
  have length : writing.bare.parts.length = writing.parts.length := List.length_map _
  have accounts : writing.bare.parts.map Partition.account =
      writing.parts.map Partition.account := by
    simp [bare]
  simp only [conclusionNow?, late, length, accounts,
    writing.all_bare Partition.isSettled_bare, writing.countP_bare Partition.isAbandoned_bare,
    writing.countP_bare Partition.isFinished_bare]

/-- The first part in some state is changed alike. -/
theorem first_bare
    {view : Partition → Bool}
    {change : Partition → Partition}
    (same : ∀ part : Partition, view part.bare = view part)
    (changes : ∀ part : Partition, change part.bare = (change part).bare) :
    (writing.bare.parts.findIdx? view).map (fun position => writing.bare.update position change) =
      ((writing.parts.findIdx? view).map fun position => writing.update position change).map
        bare := by
  rw [writing.findIdx?_bare same]
  cases first : writing.parts.findIdx? view with
  | none => rfl
  | some position =>
    have inside := (List.findIdx?_eq_some_iff_getElem.mp first).1
    exact congrArg some (update_bare (List.getElem?_eq_getElem inside) (changes _))

/-- What is done with the part at a position is done alike. -/
theorem bind_part_bare
    {position : Nat}
    {next next' : Partition → Option Writing}
    (same : ∀ part, writing.parts[position]? = some part →
      next' part.bare = (next part).map bare) :
    writing.bare.parts[position]?.bind next' = (writing.parts[position]?.bind next).map bare := by
  cases found : writing.parts[position]? with
  | none => rw [bare, List.getElem?_map, found]; rfl
  | some part =>
    rw [found_bare found]
    exact same part found

theorem mayPass_bare (nanoseconds : Nat) :
    writing.bare.mayPass nanoseconds = writing.mayPass nanoseconds := by
  unfold mayPass
  rw [all_bare]
  · rfl
  · intro part
    simp

theorem step_bare (event : Event) : writing.bare.step event = (writing.step event).map bare := by
  have late : writing.bare.isLate = writing.isLate := rfl
  have unconcluded : writing.bare.conclusion = writing.conclusion := rfl
  cases event with
  | accept =>
    simp only [step, hasRoom_bare, unconcluded]
    split
    · exact writing.first_bare Partition.isWaiting_bare fun _ => rfl
    · rfl
  | start =>
    simp only [step, hasFreeWorker_bare]
    split
    · exact writing.first_bare Partition.isQueued_bare Partition.proceed_bare
    · rfl
  | send position =>
    refine writing.bind_part_bare fun part found => ?_
    simp only [late, ne_eq, Partition.ready_bare]
    split
    · rfl
    · split
      · refine congrArg some (update_bare found ?_)
        simp [Partition.bare, Progress.bare]
      · exact congrArg some (update_bare found (part.dispatch_bare _))
  | answer position outcome =>
    refine writing.bind_part_bare fun part found => ?_
    cases sending : part.progress <;>
      simp only [Partition.bare, sending, Progress.bare, Option.map_none]
    exact congrArg some (update_bare found (part.receive_bare _ _))
  | panic position =>
    refine writing.bind_part_bare fun part found => ?_
    cases sending : part.progress <;>
      simp only [Partition.bare, sending, Progress.bare, Option.map_none]
    exact congrArg some (update_bare found rfl)
  | cut position =>
    refine writing.bind_part_bare fun part found => ?_
    cases sending : part.progress <;>
      simp only [Partition.bare, sending, Progress.bare, Option.map_none, late]
    split
    · refine congrArg some (update_bare found ?_)
      simp [Partition.bare, Progress.bare]
    · rfl
  | pass nanoseconds =>
    simp only [step, mayPass_bare]
    split <;> rfl
  | conclude =>
    simp only [step, conclusionNow?_bare, unconcluded]
    split
    · cases writing.conclusionNow? <;> rfl
    · rfl

end Writing

/-! ### Deliveries -/

namespace Delivery

variable {σ : Type}

theorem find?_bare (calls : List Airborne) (view : Airborne → Bool)
    (same : ∀ call : Airborne, view call.bare = view call) :
    (calls.map Airborne.bare).find? view = (calls.find? view).map Airborne.bare := by
  rw [List.find?_map]
  exact congrArg (fun view => (calls.find? view).map Airborne.bare) (funext same)

/-- What happens next is told by writing and calls, whatever their documents are. -/
theorem next?_bare (delivery : Delivery σ) :
    next? { delivery with
      writing := delivery.writing.bare
      airborne := delivery.airborne.map Airborne.bare } = delivery.next? := by
  have ready : delivery.writing.bare.parts.findIdx? (fun part => part.progress = .ready) =
      delivery.writing.parts.findIdx? (fun part => part.progress = .ready) :=
    delivery.writing.findIdx?_bare fun part => by simp
  have due : nextDue { delivery with
      writing := delivery.writing.bare
      airborne := delivery.airborne.map Airborne.bare } = delivery.nextDue := by
    simp only [nextDue, List.foldl_map]
    rfl
  have late : delivery.writing.bare.isLate = delivery.writing.isLate := rfl
  have conclusion : delivery.writing.bare.conclusion = delivery.writing.conclusion := rfl
  have clock : delivery.writing.bare.clock = delivery.writing.clock := rfl
  have findsQuick := find?_bare delivery.airborne (fun call => call.flight.delay = 0)
    fun _ => rfl
  have findsDue := find?_bare delivery.airborne (fun call => call.due ≤ delivery.writing.clock)
    fun _ => rfl
  simp only [next?, ready, due, late, conclusion, clock, Writing.hasFreeWorker_bare,
    Writing.hasRoom_bare, delivery.writing.any_bare Partition.isWaiting_bare,
    delivery.writing.any_bare Partition.isQueued_bare,
    delivery.writing.all_bare Partition.isSettled_bare, findsQuick, findsDue]
  cases delivery.airborne.find? (fun call => call.flight.delay = 0) <;>
  cases delivery.airborne.find? (fun call => call.due ≤ delivery.writing.clock) <;> rfl

/-- Two deliveries of the same ids, to stores that go by the same. -/
structure Twins (first second : Delivery Memory) : Prop where
  index : second.index = first.index
  writing : second.writing.bare = first.writing.bare
  airborne : second.airborne.map Airborne.bare = first.airborne.map Airborne.bare
  store : Memory.SameKnobs first.sink second.sink

variable {first second : Delivery Memory}

theorem Twins.next?_eq (twins : Twins first second) : second.next? = first.next? := by
  rw [← next?_bare, ← next?_bare first, twins.writing, twins.airborne]
  rfl

/-- What one of the writes can do, so can the other, and they still differ in bodies alone. -/
theorem Twins.steps (twins : Twins first second) (event : Event) :
    (first.writing.step event = none ∧ second.writing.step event = none) ∨
    ∃ after after', first.writing.step event = some after ∧
      second.writing.step event = some after' ∧ after'.bare = after.bare := by
  have same : (second.writing.step event).map Writing.bare =
      (first.writing.step event).map Writing.bare := by
    rw [← Writing.step_bare, ← Writing.step_bare, twins.writing]
  cases firstStep : first.writing.step event <;>
  cases secondStep : second.writing.step event <;>
  simp_all

theorem Twins.quietly (twins : Twins first second) (event : Event) :
    Option.Rel Twins (first.quietly event) (second.quietly event) := by
  unfold Delivery.quietly
  rcases twins.steps event with ⟨stays, stays'⟩ | ⟨after, after', goes, goes', same⟩
  · rw [stays, stays']
    exact .none
  · rw [goes, goes']
    exact .some ⟨twins.index, same, twins.airborne, twins.store⟩

theorem Progress.of_bare_eq {first second : Progress} (same : second.bare = first.bare) :
    (∃ chunk chunk', first = .sending chunk ∧ second = .sending chunk' ∧
      chunk'.map Entry.bare = chunk.map Entry.bare) ∨
    (∀ chunk, first ≠ .sending chunk) ∧ second = first := by
  cases first <;> cases second <;> simp [Progress.bare] at same ⊢ <;> exact same

theorem progress_eq {writing writing' : Writing} (same : writing'.bare = writing.bare)
    (position : Nat) :
    ((writing'.parts[position]?).map Partition.progress).map Progress.bare =
      ((writing.parts[position]?).map Partition.progress).map Progress.bare := by
  have parts := congrArg (fun writing => (writing.parts[position]?).map Partition.progress) same
  simp only [Writing.bare, List.getElem?_map, Option.map_map] at parts ⊢
  exact parts

/-- A store judges documents by their ids. -/
theorem receive_bare {store store' : Memory} (same : Memory.SameKnobs store store')
    {chunk chunk' : List Entry} (ids : chunk'.map Entry.bare = chunk.map Entry.bare)
    (index : String) :
    (store'.receive index chunk').1 = (store.receive index chunk).1 ∧
      Memory.SameKnobs (store.receive index chunk).2 (store'.receive index chunk').2 := by
  have verdicts : chunk'.map store'.judge = chunk.map store.judge := by
    have judges : store'.judge = store.judge ∘ Entry.bare := by
      funext document
      simp [Memory.judge, same.rejected, Entry.bare]
    have bare : store.judge = store.judge ∘ Entry.bare := rfl
    rw [judges, bare, ← List.map_map, ids, List.map_map]
    rfl
  unfold Memory.receive
  by_cases broken : 0 < store.broken
  · rw [if_pos broken, if_pos (same.broken ▸ broken)]
    exact ⟨rfl, same.latency, same.rejected, congrArg (· - 1) same.broken⟩
  · rw [if_neg broken, if_neg (same.broken ▸ broken)]
    simp only [Sink.Memory.foldl_put, verdicts, true_and]
    exact ⟨same.latency, same.rejected, same.broken⟩

theorem Twins.send (twins : Twins first second) (position : Nat) :
    Option.Rel Twins (first.send Sink.memory position) (second.send Sink.memory position) := by
  unfold Delivery.send
  rcases twins.steps (.send position) with ⟨stays, stays'⟩ | ⟨after, after', goes, goes', same⟩
  · rw [stays, stays']
    exact .none
  · rw [goes, goes']
    simp only [Option.bind_eq_bind, Option.bind_some]
    have clock : after'.clock = after.clock := congrArg (·.clock) same
    have quiet : Twins { first with writing := after } { second with writing := after' } :=
      ⟨twins.index, same, twins.airborne, twins.store⟩
    have sent := progress_eq same position
    generalize (after.parts[position]?).map Partition.progress = progress at sent ⊢
    generalize (after'.parts[position]?).map Partition.progress = progress' at sent ⊢
    cases progress <;> cases progress' <;>
      simp only [Option.map_some, Option.map_none, Option.some.injEq, reduceCtorEq] at sent
    · exact .some quiet
    · rcases Progress.of_bare_eq sent with ⟨chunk, chunk', rfl, rfl, ids⟩ | ⟨idle, rfl⟩
      · refine .some ⟨twins.index, same, ?_, twins.store⟩
        simp only [List.map_append, twins.airborne, List.map_cons, List.map_nil, Airborne.bare,
          ids, clock, Sink.memory, twins.store.latency]
      · split
        · rename_i isSending
          exact absurd (Option.some.inj isSending) (idle _)
        · exact .some quiet

theorem Twins.grounded (twins : Twins first second) (position : Nat) :
    (second.airborne.filter fun call => call.part ≠ position).map Airborne.bare =
      (first.airborne.filter fun call => call.part ≠ position).map Airborne.bare := by
  have same := congrArg (List.filter fun call => call.part ≠ position) twins.airborne
  rw [List.filter_map, List.filter_map] at same
  exact same

theorem Twins.land (twins : Twins first second) (position : Nat) :
    Option.Rel Twins (first.land Sink.memory position) (second.land Sink.memory position) := by
  have aloft : (second.airborne.find? fun call => call.part = position).map Airborne.bare =
      (first.airborne.find? fun call => call.part = position).map Airborne.bare := by
    rw [← find?_bare _ (fun call => call.part = position) fun _ => rfl, twins.airborne,
      find?_bare _ (fun call => call.part = position) fun _ => rfl]
  have clock : second.writing.clock = first.writing.clock := congrArg (·.clock) twins.writing
  unfold Delivery.land
  generalize first.airborne.find? (fun call => call.part = position) = call? at aloft ⊢
  generalize second.airborne.find? (fun call => call.part = position) = call?' at aloft ⊢
  cases call? <;> cases call?' <;>
    simp only [Option.map_some, Option.map_none, Option.some.injEq, reduceCtorEq, Airborne.bare,
      Airborne.mk.injEq] at aloft
  · exact .none
  · rename_i call call'
    obtain ⟨-, ids, due, flight⟩ := aloft
    obtain ⟨landing, store⟩ := receive_bare twins.store ids first.index
    simp only [Option.bind_eq_bind, Option.bind_some, due, clock]
    split
    · exact .none
    · simp only [Sink.memory, twins.index, landing]
      generalize eventOf position (first.sink.receive first.index call.chunk).1 = event
      rcases twins.steps event with ⟨stays, stays'⟩ | ⟨after, after', goes, goes', same⟩
      · rw [stays, stays']
        exact .none
      · rw [goes, goes']
        exact .some ⟨rfl, same, twins.grounded position, store⟩

theorem Twins.cut (twins : Twins first second) (position : Nat) :
    Option.Rel Twins (first.cut position) (second.cut position) := by
  unfold Delivery.cut
  rcases twins.steps (.cut position) with ⟨stays, stays'⟩ | ⟨after, after', goes, goes', same⟩
  · rw [stays, stays']
    exact .none
  · rw [goes, goes']
    exact .some ⟨twins.index, same, twins.grounded position, twins.store⟩

theorem Twins.pass (twins : Twins first second) (nanoseconds : Nat) :
    Option.Rel Twins (first.pass nanoseconds) (second.pass nanoseconds) := by
  have clock : second.writing.clock = first.writing.clock := congrArg (·.clock) twins.writing
  have free : second.airborne.all (fun call => second.writing.clock + nanoseconds ≤ call.due) =
      first.airborne.all (fun call => first.writing.clock + nanoseconds ≤ call.due) := by
    have same := congrArg (List.all · fun call => first.writing.clock + nanoseconds ≤ call.due)
      twins.airborne
    simp only [List.all_map] at same
    rw [clock]
    exact same
  unfold Delivery.pass
  rw [free]
  split
  · exact twins.quietly _
  · exact .none

/-- Twins go on alike. -/
theorem Twins.step (twins : Twins first second) (choice : Choice) :
    Option.Rel Twins (first.step Sink.memory choice) (second.step Sink.memory choice) := by
  cases choice with
  | accept => exact twins.quietly _
  | start => exact twins.quietly _
  | send position => exact twins.send position
  | land position => exact twins.land position
  | cut position => exact twins.cut position
  | pass nanoseconds => exact twins.pass nanoseconds
  | conclude => exact twins.quietly _

theorem Twins.follow (twins : Twins first second) (limit : Nat) :
    Twins (first.follow Sink.memory limit) (second.follow Sink.memory limit) := by
  induction limit generalizing first second with
  | zero => exact twins
  | succ limit inductionHypothesis =>
    rw [Delivery.follow, Delivery.follow, twins.next?_eq]
    cases first.next? with
    | none => exact twins
    | some choice =>
      simp only [Option.bind_some]
      have steps := twins.step choice
      generalize first.step Sink.memory choice = after? at steps ⊢
      generalize second.step Sink.memory choice = after?' at steps ⊢
      cases steps with
      | none => exact twins
      | some after => exact inductionHypothesis after

theorem Twins.sizes (twins : Twins first second) :
    second.writing.parts.length = first.writing.parts.length ∧
      (second.writing.parts.flatMap Partition.documents).length =
        (first.writing.parts.flatMap Partition.documents).length := by
  have parts : second.writing.parts.map Partition.bare = first.writing.parts.map Partition.bare :=
    congrArg (·.parts) twins.writing
  have lengths (parts : List Partition) :
      (parts.flatMap Partition.documents).length =
        ((parts.map Partition.bare).flatMap Partition.documents).length := by
    simp [List.length_flatMap, Partition.bare, Function.comp_def]
  refine ⟨by simpa using congrArg List.length parts, ?_⟩
  rw [lengths, parts, ← lengths]

end Delivery

/-! ### Writes -/

namespace Writer

variable {options : WriteOptions} {settings : Settings} {poolSize : Nat} {batch batch' : Batch}
  {store store' : Memory}

theorem choiceLimit_twins {first second : Delivery Memory} (twins : first.Twins second) :
    second.choiceLimit = first.choiceLimit := by
  rw [Delivery.choiceLimit, Delivery.choiceLimit, twins.sizes.1, twins.sizes.2]

theorem outcomeOf_twins {first second : Delivery Memory} (twins : first.Twins second) :
    outcomeOf options second = outcomeOf options first := by
  have conclusion : second.writing.conclusion = first.writing.conclusion :=
    congrArg (·.conclusion) twins.writing
  have clock : second.writing.clock = first.writing.clock := congrArg (·.clock) twins.writing
  unfold outcomeOf
  rw [conclusion, clock, twins.index, twins.sizes.1, twins.sizes.2]

/-- Batches with the same ids, each on its way to a store that goes by the same. -/
theorem twins_delivery
    (ids : batch'.documents.map Entry.id = batch.documents.map Entry.id)
    (same : Memory.SameKnobs store store')
    (index : String) :
    (delivery ⟨Sink.memory, settings, poolSize⟩ options batch index store).Twins
      (delivery ⟨Sink.memory, settings, poolSize⟩ options batch' index store') := by
  have bare (batch : Batch) : batch.documents.map Entry.bare =
      (batch.documents.map Entry.id).map fun id => ⟨id, ""⟩ := by
    rw [List.map_map]
    rfl
  have documents : batch'.documents.map Entry.bare = batch.documents.map Entry.bare := by
    rw [bare, bare, ids]
  have length : batch'.documents.length = batch.documents.length := by
    simpa using congrArg List.length ids
  have slice (range : Range) (documents : List Entry) :
      (Partition.new (range.slice documents)).bare =
        .new (range.slice (documents.map Entry.bare)) := by
    simp only [Partition.new, Partition.bare, Range.slice, List.map_take, List.map_drop]
    rfl
  refine ⟨rfl, ?_, rfl, same⟩
  simp only [delivery, Writing.bare, Writing.new, List.map_map, Function.comp_def, slice, documents,
    length]

/-- Two batches with the same ids are written with the same outcome, into whatever stores that go by
the same. -/
theorem write_twins
    (ids : batch'.documents.map Entry.id = batch.documents.map Entry.id)
    (same : Memory.SameKnobs store store')
    (index : String) :
    (write ⟨Sink.memory, settings, poolSize⟩ options batch' index store').1 =
        (write ⟨Sink.memory, settings, poolSize⟩ options batch index store).1 ∧
      Memory.SameKnobs (write ⟨Sink.memory, settings, poolSize⟩ options batch index store).2
        (write ⟨Sink.memory, settings, poolSize⟩ options batch' index store').2 := by
  have empty : batch'.documents.isEmpty = batch.documents.isEmpty := by
    rw [← List.isEmpty_map, ids, List.isEmpty_map]
  obtain ⟨ensured, ensures, gains⟩ := Memory.exists_ensured settings index store
  obtain ⟨ensured', ensures', gains'⟩ := Memory.exists_ensured settings index store'
  have sameEnsured : Memory.SameKnobs ensured ensured' :=
    gains.symm.trans (same.trans gains'.toSameKnobs)
  rw [write, write, empty]
  split
  · exact ⟨rfl, same⟩
  · have start : (delivery ⟨Sink.memory, settings, poolSize⟩ options batch index ensured).Twins
        (delivery ⟨Sink.memory, settings, poolSize⟩ options batch' index ensured') :=
      twins_delivery ids sameEnsured index
    simp only [ensures, ensures', choiceLimit_twins start]
    have final := start.follow
      (delivery ⟨Sink.memory, settings, poolSize⟩ options batch index ensured).choiceLimit
    exact ⟨outcomeOf_twins final, final.store⟩

end Writer

end RepoVitals.Bulk

import Mathlib.Algebra.Order.BigOperators.Group.List
import RepoVitals.Proofs.Bulk.Verdict
/-!
The steady schedule: every write comes to an end.

Owns:
- what makes each choice possible, and the delivery that it leads to;
- `Delivery.toDo`, which bounds the choices that the steady schedule still needs;
- `Logged.getsOn_next?`: until there is a verdict, the steady schedule makes a choice that is
  possible and leaves less to do;
- `Writer.write_of_ensured`: a write returns what one of its courses comes to, in time and with a
  verdict.
-/

namespace RepoVitals.Bulk

variable {σ : Type}

/-! ### What is left to do -/

/-- How many choices a part may still need, apart from those for the call that is on its way: to be
accepted, to be started, and for every document left at most one call, which starts, waits and
lands. -/
def Partition.toDo (part : Partition) : Nat :=
  3 * part.unsent.length +
    match part.progress with
    | .waiting => 2
    | .queued => 1
    | _ => 0

/-- A call in the air still has to land, and perhaps to be waited for. -/
def Airborne.toDo (clock : Nat) (call : Airborne) : Nat :=
  if call.due ≤ clock then 1 else 2

/-- The parts have something to do, and time may pass up to the deadline. -/
def Writing.toDo (writing : Writing) : Nat :=
  (writing.parts.map Partition.toDo).sum + if writing.deadline ≤ writing.clock then 0 else 1

/-- How many choices the steady schedule may still need before the verdict. -/
def Delivery.toDo (delivery : Delivery σ) : Nat :=
  delivery.writing.toDo + (delivery.airborne.map (Airborne.toDo delivery.writing.clock)).sum

theorem Airborne.toDo_le (clock : Nat) (call : Airborne) : call.toDo clock ≤ 2 := by
  unfold toDo
  split <;> decide

theorem Airborne.toDo_pos (clock : Nat) (call : Airborne) : 0 < call.toDo clock := by
  unfold toDo
  split <;> decide

theorem Airborne.toDo_anti {earlier later : Nat} (order : earlier ≤ later) (call : Airborne) :
    call.toDo later ≤ call.toDo earlier := by
  unfold toDo
  split <;> split <;> omega

theorem Partition.toDo_proceed (part : Partition) :
    part.proceed.toDo = 3 * part.unsent.length := by
  rw [toDo, progress_proceed]
  by_cases isEmpty : part.unsent = []
  · rw [if_pos isEmpty]
    rfl
  · rw [if_neg isEmpty]
    rfl

theorem Partition.toDo_landed (part : Partition) (chunk : List Entry) (landing : Sink.Landing) :
    (part.landed chunk landing).toDo = 3 * part.unsent.length := by
  cases landing with
  | answered outcome => exact toDo_proceed _
  | panicked => rfl

theorem Writing.toDo_put {writing : Writing} {position : Nat} {part : Partition}
    (found : writing.parts[position]? = some part) (next : Partition) :
    (writing.put position next).toDo + part.toDo = writing.toDo + next.toDo := by
  have changed := sum_map_put Partition.toDo found next
  change _ + (if writing.deadline ≤ writing.clock then 0 else 1) + _ = _
  unfold toDo
  omega

theorem sum_map_filter_add_le (weight : Airborne → Nat) (keeps : Airborne → Bool)
    {calls : List Airborne} {call : Airborne} (member : call ∈ calls)
    (dropped : keeps call = false) :
    ((calls.filter keeps).map weight).sum + weight call ≤ (calls.map weight).sum := by
  induction calls with
  | nil => cases member
  | cons head rest inductionHypothesis =>
    rcases List.mem_cons.mp member with rfl | later
    · have fewer : ((rest.filter keeps).map weight).sum ≤ (rest.map weight).sum :=
        (List.filter_sublist.map weight).sum_le_sum fun _ _ => Nat.zero_le _
      rw [List.filter_cons_of_neg (by simp [dropped]), List.map_cons, List.sum_cons]
      omega
    · have smaller := inductionHypothesis later
      rw [List.filter_cons, List.map_cons, List.sum_cons]
      split
      · rw [List.map_cons, List.sum_cons]
        omega
      · omega

/-! ### Choices that are possible -/

namespace Delivery

variable {delivery : Delivery σ} {position : Nat} {part : Partition}

theorem step_accept (sink : Sink σ) (room : delivery.writing.hasRoom = true)
    (unconcluded : delivery.writing.conclusion = none)
    (waiting : delivery.writing.parts.any Partition.isWaiting = true) :
    ∃ position part, delivery.writing.parts[position]? = some part ∧ part.progress = .waiting ∧
      delivery.step sink .accept = some { delivery with
        writing := delivery.writing.put position { part with progress := .queued } } := by
  obtain ⟨position, first⟩ := Option.isSome_iff_exists.mp (List.findIdx?_isSome.trans waiting)
  obtain ⟨inside, waits, -⟩ := List.findIdx?_eq_some_iff_getElem.mp first
  have found := List.getElem?_eq_getElem inside
  refine ⟨position, _, found, of_decide_eq_true waits, ?_⟩
  simp only [step, quietly, Writing.step, room, unconcluded, first, and_self, ↓reduceIte,
    Option.map_some, Writing.update_eq_put found]

theorem step_start (sink : Sink σ) (free : delivery.writing.hasFreeWorker = true)
    (queue : delivery.writing.parts.any Partition.isQueued = true) :
    ∃ position part, delivery.writing.parts[position]? = some part ∧ part.progress = .queued ∧
      delivery.step sink .start = some { delivery with
        writing := delivery.writing.put position part.proceed } := by
  obtain ⟨position, first⟩ := Option.isSome_iff_exists.mp (List.findIdx?_isSome.trans queue)
  obtain ⟨inside, queued, -⟩ := List.findIdx?_eq_some_iff_getElem.mp first
  have found := List.getElem?_eq_getElem inside
  refine ⟨position, _, found, of_decide_eq_true queued, ?_⟩
  simp only [step, quietly, Writing.step, free, first, ↓reduceIte, Option.map_some,
    Writing.update_eq_put found]

theorem step_send (sink : Sink σ) (found : delivery.writing.parts[position]? = some part)
    (ready : part.progress = .ready) (early : delivery.writing.clock < delivery.writing.deadline) :
    ∃ state flight, delivery.step sink (.send position) = some { delivery with
      writing := delivery.writing.put position (part.dispatch delivery.writing.batchSize)
      sink := state
      airborne := delivery.airborne ++
        [⟨position, part.unsent.take delivery.writing.batchSize,
          delivery.writing.clock + flight.delay, flight⟩] } := by
  have inside : position < delivery.writing.parts.length := (List.getElem?_eq_some_iff.mp found).1
  have notLate : delivery.writing.isLate = false := decide_eq_false (Nat.not_le_of_lt early)
  rcases flies : sink.takeOff delivery.sink delivery.index
    (part.unsent.take delivery.writing.batchSize) with ⟨flight, state⟩
  refine ⟨state, flight, ?_⟩
  simp only [step, send, Writing.step, found, ready, notLate, Option.bind_eq_bind,
    Option.bind_some, ne_eq, not_true_eq_false, Bool.false_eq_true, ↓reduceIte,
    Writing.update_eq_put found]
  simp only [Writing.put, List.getElem?_set_self inside, Option.map_some, Partition.dispatch, flies]

private theorem find?_of_single {calls : List Airborne} (single : (calls.map Airborne.part).Nodup)
    {call : Airborne} (member : call ∈ calls) :
    calls.find? (fun other => other.part = call.part) = some call := by
  induction calls with
  | nil => cases member
  | cons head rest inductionHypothesis =>
    rw [List.map_cons, List.nodup_cons] at single
    rcases List.mem_cons.mp member with rfl | later
    · exact List.find?_cons_of_pos (decide_eq_true rfl)
    · have elsewhere : ¬head.part = call.part := by
        intro same
        exact single.1 (same ▸ List.mem_map_of_mem later)
      rw [List.find?_cons_of_neg (by simp [elsewhere])]
      exact inductionHypothesis single.2 later

theorem step_land (sink : Sink σ) (single : (delivery.airborne.map Airborne.part).Nodup)
    {call : Airborne} {chunk : List Entry} (member : call ∈ delivery.airborne)
    (found : delivery.writing.parts[call.part]? = some part)
    (sending : part.progress = .sending chunk) (due : call.due ≤ delivery.writing.clock) :
    ∃ state landing, delivery.step sink (.land call.part) = some { delivery with
      writing := delivery.writing.put call.part (part.landed chunk landing)
      sink := state
      airborne := delivery.airborne.filter (fun other => other.part ≠ call.part) } := by
  rcases lands : sink.land delivery.sink delivery.index call.chunk call.flight with
    ⟨landing, state⟩
  refine ⟨state, landing, ?_⟩
  simp only [step, land, find?_of_single single member, Option.bind_eq_bind, Option.bind_some,
    Nat.not_lt_of_le due, lands, ↓reduceIte]
  cases landing <;>
  simp only [eventOf, Writing.step, found, sending, Option.bind_eq_bind, Option.bind_some,
    Writing.update_eq_put found, Partition.landed]

/-- A call that is on its way can be cut off from the deadline on, and not before. -/
theorem step_cut (sink : Sink σ) {chunk : List Entry}
    (found : delivery.writing.parts[position]? = some part)
    (sending : part.progress = .sending chunk) :
    delivery.step sink (.cut position) =
      if delivery.writing.deadline ≤ delivery.writing.clock then
        some { delivery with
          writing := delivery.writing.put position
            { part with progress := .abandoned (chunk.length + part.unsent.length) }
          airborne := delivery.airborne.filter (fun call => call.part ≠ position) }
      else none := by
  simp only [step, cut, Writing.step, found, sending, Writing.isLate, decide_eq_true_eq,
    Option.bind_eq_bind, Option.bind_some]
  split
  · rw [Option.bind_some, Writing.update_eq_put found]
  · rfl

theorem step_pass (sink : Sink σ) (nanoseconds : Nat)
    (waits : ∀ call ∈ delivery.airborne, delivery.writing.clock + nanoseconds ≤ call.due)
    (inTime : delivery.writing.clock + nanoseconds ≤ delivery.writing.deadline) :
    delivery.step sink (.pass nanoseconds) = some { delivery with
      writing := { delivery.writing with clock := delivery.writing.clock + nanoseconds } } := by
  have all : delivery.airborne.all
      (fun call => delivery.writing.clock + nanoseconds ≤ call.due) = true := by
    simpa using waits
  simp only [step, pass, all, quietly, Writing.step, Writing.mayPass, inTime, decide_true,
    Bool.true_or, ↓reduceIte, Option.map_some]

/-- Whoever waits for the write can be told at the deadline, or when every part is settled. -/
theorem step_conclude (sink : Sink σ) (unconcluded : delivery.writing.conclusion = none)
    (decided : delivery.writing.isLate = true ∨
      delivery.writing.parts.all Partition.isSettled = true) :
    ∃ conclusion, delivery.step sink .conclude = some { delivery with
      writing := { delivery.writing with conclusion := some conclusion } } := by
  have given : ∃ conclusion, delivery.writing.conclusionNow? = some conclusion := by
    unfold Writing.conclusionNow?
    split
    · dsimp only
      split <;> exact ⟨_, rfl⟩
    · rename_i unsettled
      rw [if_pos (decided.resolve_right unsettled)]
      exact ⟨_, rfl⟩
  obtain ⟨conclusion, now⟩ := given
  refine ⟨conclusion, ?_⟩
  simp only [step, quietly, Writing.step, unconcluded, now, ↓reduceIte, Option.map_some]

/-! ### Choices that get on -/

private theorem toDo_send (found : delivery.writing.parts[position]? = some part)
    (positive : 0 < delivery.writing.batchSize) (some : part.unsent ≠ []) (state : σ)
    (call : Airborne) :
    ({ delivery with
      writing := delivery.writing.put position (part.dispatch delivery.writing.batchSize)
      sink := state
      airborne := delivery.airborne ++ [call] } : Delivery σ).toDo < delivery.toDo := by
  have changed := Writing.toDo_put found (part.dispatch delivery.writing.batchSize)
  have small := call.toDo_le delivery.writing.clock
  have holds := List.length_pos_iff.mpr some
  have fewer : (part.dispatch delivery.writing.batchSize).toDo + 3 ≤ part.toDo := by
    simp only [Partition.toDo, Partition.dispatch, List.length_drop]
    omega
  rw [toDo, toDo, List.map_append, List.sum_append, List.map_singleton, List.sum_singleton]
  change (delivery.writing.put position (part.dispatch delivery.writing.batchSize)).toDo +
    ((delivery.airborne.map (Airborne.toDo delivery.writing.clock)).sum +
      call.toDo delivery.writing.clock) < _
  omega

private theorem toDo_land {call : Airborne} (member : call ∈ delivery.airborne)
    (found : delivery.writing.parts[call.part]? = some part) (chunk : List Entry)
    (landing : Sink.Landing) (state : σ) :
    ({ delivery with
      writing := delivery.writing.put call.part (part.landed chunk landing)
      sink := state
      airborne := delivery.airborne.filter (fun other => other.part ≠ call.part) } :
        Delivery σ).toDo < delivery.toDo := by
  have changed := Writing.toDo_put found (part.landed chunk landing)
  have noMore : (part.landed chunk landing).toDo ≤ part.toDo := by
    rw [Partition.toDo_landed]
    exact Nat.le_add_right _ _
  have gone := sum_map_filter_add_le (Airborne.toDo delivery.writing.clock)
    (fun other => other.part ≠ call.part) member (by simp)
  have counted := call.toDo_pos delivery.writing.clock
  unfold toDo
  change (delivery.writing.put call.part (part.landed chunk landing)).toDo +
    ((delivery.airborne.filter _).map (Airborne.toDo delivery.writing.clock)).sum < _
  omega

private theorem foldl_min_due (calls : List Airborne) (latest : Nat) :
    calls.foldl (fun earliest call => min earliest call.due) latest ≤ latest ∧
      (∀ call ∈ calls,
        calls.foldl (fun earliest call => min earliest call.due) latest ≤ call.due) ∧
      (calls.foldl (fun earliest call => min earliest call.due) latest = latest ∨
        ∃ call ∈ calls,
          calls.foldl (fun earliest call => min earliest call.due) latest = call.due) := by
  induction calls generalizing latest with
  | nil => simp
  | cons head rest inductionHypothesis =>
    obtain ⟨below, belowAll, reached⟩ := inductionHypothesis (min latest head.due)
    simp only [List.foldl_cons, List.mem_cons, forall_eq_or_imp, exists_eq_or_imp]
    refine ⟨by omega, ⟨by omega, belowAll⟩, ?_⟩
    rcases reached with same | later
    · omega
    · exact .inr (.inr later)

/-- The next time at which something is due is the earliest among the deadline and the calls. -/
theorem nextDue_spec (delivery : Delivery σ) :
    delivery.nextDue ≤ delivery.writing.deadline ∧
      (∀ call ∈ delivery.airborne, delivery.nextDue ≤ call.due) ∧
      (delivery.nextDue = delivery.writing.deadline ∨
        ∃ call ∈ delivery.airborne, delivery.nextDue = call.due) :=
  foldl_min_due delivery.airborne delivery.writing.deadline

theorem lt_nextDue (early : delivery.writing.clock < delivery.writing.deadline)
    (aloft : ∀ call ∈ delivery.airborne, delivery.writing.clock < call.due) :
    delivery.writing.clock < delivery.nextDue := by
  rcases delivery.nextDue_spec.2.2 with same | ⟨call, member, same⟩ <;> rw [same]
  · exact early
  · exact aloft call member

private theorem toDo_pass (early : delivery.writing.clock < delivery.writing.deadline)
    (aloft : ∀ call ∈ delivery.airborne, delivery.writing.clock < call.due) :
    ({ delivery with
      writing := { delivery.writing with clock := delivery.nextDue } } : Delivery σ).toDo <
      delivery.toDo := by
  have forward := Nat.le_of_lt (lt_nextDue early aloft)
  have noMore : ∀ call ∈ delivery.airborne,
      call.toDo delivery.nextDue ≤ call.toDo delivery.writing.clock :=
    fun call _ => call.toDo_anti forward
  have sum := List.sum_le_sum noMore
  simp only [toDo, Writing.toDo, if_neg (Nat.not_le_of_lt early)]
  rcases delivery.nextDue_spec.2.2 with same | ⟨call, member, same⟩
  · rw [if_pos (Nat.le_of_eq same.symm)]
    omega
  · -- A call that is due by then need not be waited for any more.
    have fewer : call.toDo delivery.nextDue < call.toDo delivery.writing.clock := by
      rw [Airborne.toDo, Airborne.toDo, if_pos (Nat.le_of_eq same.symm),
        if_neg (Nat.not_le_of_lt (aloft call member))]
      decide
    have sumFewer := List.sum_lt_sum _ _ noMore ⟨call, member, fewer⟩
    split <;> omega

end Delivery

/-! ### The schedule -/

/-- A choice is possible, does not pass the deadline, and gives the verdict or leaves less to do. -/
def Delivery.GetsOn (sink : Sink σ) (delivery : Delivery σ) (choice : Choice) : Prop :=
  ∃ after, delivery.step sink choice = some after ∧
    after.writing.clock ≤ after.writing.deadline ∧
    (after.writing.conclusion = none → after.toDo < delivery.toDo)

theorem Delivery.getsOn_pass (sink : Sink σ) {delivery : Delivery σ}
    (early : delivery.writing.clock < delivery.writing.deadline)
    (aloft : ∀ call ∈ delivery.airborne, delivery.writing.clock < call.due) :
    delivery.GetsOn sink (.pass (delivery.nextDue - delivery.writing.clock)) := by
  obtain ⟨inTime, below, -⟩ := delivery.nextDue_spec
  have forward : delivery.writing.clock + (delivery.nextDue - delivery.writing.clock) =
      delivery.nextDue := Nat.add_sub_cancel' (Nat.le_of_lt (lt_nextDue early aloft))
  have stepped := step_pass sink (delivery.nextDue - delivery.writing.clock)
    (forward.symm ▸ below) (forward.symm ▸ inTime)
  rw [forward] at stepped
  exact ⟨_, stepped, inTime, fun _ => toDo_pass early aloft⟩

namespace Logged

variable {origin : Delivery σ} {logged : Logged σ}

section GetsOn

variable (sink : Sink σ) (sound : logged.Sound origin)
  (unconcluded : logged.writing.conclusion = none)
include sound unconcluded

/-- The deadline is not passed before the verdict. -/
theorem clock_le_deadline : logged.writing.clock ≤ logged.writing.deadline :=
  sound.clock.resolve_right fun past => past.1 unconcluded

theorem getsOn_conclude
    (decided : logged.writing.isLate = true ∨
      logged.writing.parts.all Partition.isSettled = true) :
    logged.toDelivery.GetsOn sink .conclude := by
  obtain ⟨conclusion, stepped⟩ := Delivery.step_conclude sink unconcluded decided
  exact ⟨_, stepped, clock_le_deadline sound unconcluded, nofun⟩

theorem getsOn_land {call : Airborne} (member : call ∈ logged.airborne)
    (due : call.due ≤ logged.writing.clock) :
    logged.toDelivery.GetsOn sink (.land call.part) := by
  obtain ⟨part, found, sending⟩ := sound.aloft call member
  obtain ⟨state, landing, stepped⟩ := Delivery.step_land sink sound.single member found sending due
  exact ⟨_, stepped, clock_le_deadline sound unconcluded,
    fun _ => Delivery.toDo_land member found _ _ _⟩

omit unconcluded in
theorem getsOn_send (positive : 0 < logged.writing.batchSize)
    (early : logged.writing.clock < logged.writing.deadline) {position : Nat} {part : Partition}
    (found : logged.writing.parts[position]? = some part) (ready : part.progress = .ready) :
    logged.toDelivery.GetsOn sink (.send position) := by
  have some := (sound.parts part (List.mem_of_getElem? found)).ready ready
  obtain ⟨state, flight, stepped⟩ := Delivery.step_send sink found ready early
  exact ⟨_, stepped, Nat.le_of_lt early, fun _ => Delivery.toDo_send found positive some state _⟩

theorem getsOn_start (free : logged.writing.hasFreeWorker = true)
    (queue : logged.writing.parts.any Partition.isQueued = true) :
    logged.toDelivery.GetsOn sink .start := by
  obtain ⟨position, part, found, queued, stepped⟩ := Delivery.step_start sink free queue
  refine ⟨_, stepped, clock_le_deadline sound unconcluded, fun _ => Nat.add_lt_add_right ?_ _⟩
  have changed := Writing.toDo_put found part.proceed
  have before : part.toDo = 3 * part.unsent.length + 1 := by rw [Partition.toDo, queued]
  rw [Partition.toDo_proceed] at changed
  change (logged.writing.put position part.proceed).toDo < logged.writing.toDo
  omega

theorem getsOn_accept (room : logged.writing.hasRoom = true)
    (waiting : logged.writing.parts.any Partition.isWaiting = true) :
    logged.toDelivery.GetsOn sink .accept := by
  obtain ⟨position, part, found, waits, stepped⟩ :=
    Delivery.step_accept sink room unconcluded waiting
  refine ⟨_, stepped, clock_le_deadline sound unconcluded, fun _ => Nat.add_lt_add_right ?_ _⟩
  have changed := Writing.toDo_put found { part with progress := .queued }
  have before : part.toDo = 3 * part.unsent.length + 2 := by rw [Partition.toDo, waits]
  have after : Partition.toDo { part with progress := .queued } = 3 * part.unsent.length + 1 := rfl
  change (logged.writing.put position { part with progress := .queued }).toDo <
    logged.writing.toDo
  omega

/-- **Until there is a verdict, the steady schedule gets on.** -/
theorem getsOn_next? (positive : 0 < logged.writing.batchSize) :
    ∃ choice, logged.next? = some choice ∧ logged.toDelivery.GetsOn sink choice := by
  simp only [Delivery.next?, unconcluded, Option.isSome_none, Bool.false_eq_true, ↓reduceIte]
  -- One case for each kind of choice, in the order in which the schedule looks for them.
  split
  · rename_i late
    exact ⟨_, rfl, getsOn_conclude sink sound unconcluded (.inl late)⟩
  rename_i notLate
  have early : logged.writing.clock < logged.writing.deadline :=
    Nat.lt_of_not_le fun past => notLate (decide_eq_true past)
  split
  · rename_i position busy
    obtain ⟨inside, ready, -⟩ := List.findIdx?_eq_some_iff_getElem.mp busy
    exact ⟨_, rfl, getsOn_send sink sound positive early
      (List.getElem?_eq_getElem inside) (of_decide_eq_true ready)⟩
  split
  · rename_i call swift
    have member := List.mem_of_find?_eq_some swift
    have noDelay : call.flight.delay = 0 := by simpa using List.find?_some swift
    have soon := sound.soon call member
    exact ⟨_, rfl, getsOn_land sink sound unconcluded member (by omega)⟩
  split
  · rename_i free
    exact ⟨_, rfl, getsOn_start sink sound unconcluded free.1 free.2⟩
  split
  · rename_i call arriving
    have due : call.due ≤ logged.writing.clock := by simpa using List.find?_some arriving
    exact ⟨_, rfl, getsOn_land sink sound unconcluded (List.mem_of_find?_eq_some arriving) due⟩
  rename_i noneArrives
  split
  · rename_i room
    exact ⟨_, rfl, getsOn_accept sink sound unconcluded room.1 room.2⟩
  split
  · rename_i settled
    exact ⟨_, rfl, getsOn_conclude sink sound unconcluded (.inr settled)⟩
  · refine ⟨_, rfl, Delivery.getsOn_pass sink early fun call member => ?_⟩
    simpa using List.find?_eq_none.mp noneArrives call member

end GetsOn

/-- What the steady schedule keeps from choice to choice until there is a verdict. -/
def KeptBySteady (sink : Sink σ) (origin : Delivery σ) (kept : Logged σ → Prop) : Prop :=
  ∀ before choice after, before.Sound origin → before.writing.conclusion = none → kept before →
    before.next? = some choice → before.step sink choice = some after → kept after

/-- The steady schedule is a run of choices that ends with a verdict, in time. -/
theorem exec_of_follow (sink : Sink σ) (fresh : origin.Fresh) {kept : Logged σ → Prop}
    (keeps : KeptBySteady sink origin kept) (limit : Nat) (sound : logged.Sound origin)
    (isKept : kept logged) (inTime : logged.writing.clock ≤ logged.writing.deadline)
    (enough : logged.writing.conclusion = none → logged.toDo < limit) :
    ∃ choices final, logged.exec sink choices = some final ∧
      final.toDelivery = logged.toDelivery.follow sink limit ∧
      final.writing.clock ≤ final.writing.deadline ∧ final.writing.conclusion ≠ none ∧
      kept final := by
  induction limit generalizing logged with
  | zero =>
    -- Less than nothing cannot be left to do, so the verdict is there.
    have concluded : logged.writing.conclusion ≠ none :=
      fun none => absurd (enough none) (Nat.not_lt_zero _)
    exact ⟨[], logged, rfl, rfl, inTime, concluded, isKept⟩
  | succ limit inductionHypothesis =>
    by_cases unconcluded : logged.writing.conclusion = none
    · obtain ⟨choice, next, after, stepped, afterInTime, less⟩ :=
        getsOn_next? sink sound unconcluded (sound.batchSize ▸ fresh.sends)
      have lifted : ∃ following, logged.step sink choice = some following ∧
          following.toDelivery = after := by
        rw [step, stepped]
        exact ⟨_, rfl, rfl⟩
      obtain ⟨following, taken, rfl⟩ := lifted
      obtain ⟨choices, final, executed, follows, rest⟩ :=
        inductionHypothesis ((moves_of_step taken).sound fresh sound)
          (keeps logged choice following sound unconcluded isKept next taken) afterInTime
          fun none => by
            have before := enough unconcluded
            have fewer := less none
            omega
      refine ⟨choice :: choices, final, ?_, ?_, rest⟩
      · rw [exec, taken, Option.bind_some, executed]
      · rw [follows, Delivery.follow, next, Option.bind_some, stepped]
    · refine ⟨[], logged, rfl, ?_, inTime, unconcluded, isKept⟩
      rw [Delivery.follow, Delivery.next?, if_pos (Option.isSome_iff_ne_none.mpr unconcluded)]
      rfl

end Logged

/-! ### The write -/

/-- The limit on the steady schedule is high enough. -/
theorem Delivery.Fresh.toDo_lt_choiceLimit {origin : Delivery σ} (fresh : origin.Fresh) :
    origin.toDo < origin.choiceLimit := by
  have parts : (origin.writing.parts.map Partition.toDo).sum =
      3 * (origin.writing.parts.flatMap Partition.documents).length +
        2 * origin.writing.parts.length := by
    have each := fresh.parts
    generalize origin.writing.parts = parts at each
    induction parts with
    | nil => rfl
    | cons part rest inductionHypothesis =>
      have isNew := (each part List.mem_cons_self).2
      have share : part.toDo = 3 * part.documents.length + 2 := by
        rw [isNew]
        rfl
      have others := inductionHypothesis fun other member =>
        each other (List.mem_cons_of_mem _ member)
      simp only [List.map_cons, List.sum_cons, List.flatMap_cons, List.length_append,
        List.length_cons]
      omega
  rw [toDo, Writing.toDo, parts, fresh.grounded, choiceLimit]
  simp only [List.map_nil, List.sum_nil]
  split <;> omega

namespace Writer

/-- **A write returns what one of its courses comes to**, with a verdict and no later than the
deadline, and with all that the steady schedule keeps. -/
theorem write_of_ensured (writer : Writer σ) (options : WriteOptions) (batch : Batch)
    (index : String) (state ensured : σ) (holds : batch.documents ≠ [])
    (ensures : Index.ensure writer.sink writer.settings index state = (.ok (), ensured))
    {kept : Logged σ → Prop}
    (keeps : Logged.KeptBySteady writer.sink (writer.delivery options batch index ensured) kept)
    (isKept : kept (.new (writer.delivery options batch index ensured))) :
    ∃ logged, writer.Reaches options batch index state logged ∧
      writer.write options batch index state =
        (outcomeOf options logged.toDelivery, logged.sink) ∧
      logged.writing.clock ≤ options.timeout ∧ logged.writing.conclusion ≠ none ∧ kept logged := by
  have fresh := writer.fresh_delivery options batch index ensured
  obtain ⟨choices, final, executed, follows, inTime, concluded⟩ :=
    Logged.exec_of_follow writer.sink fresh keeps _ (Logged.sound_new fresh) isKept
      (Nat.zero_le _) fun _ => fresh.toDo_lt_choiceLimit
  refine ⟨final, ⟨ensured, choices, ensures, executed⟩, ?_, ?_, concluded⟩
  · rw [write, if_neg (by simpa using holds), ensures, follows]
    rfl
  · have sameDeadline := (Logged.frame_of_course (Logged.course_of_exec executed)).deadline
    exact inTime.trans (Nat.le_of_eq sameDeadline)

/-- A write that reports on documents has come to its report by one of its courses. -/
theorem reaches_of_write
    {writer : Writer σ}
    {options : WriteOptions}
    {batch : Batch}
    {index : String}
    {state after : σ}
    {report : WriteReport}
    (holds : batch.documents ≠ [])
    (written : writer.write options batch index state = (.ok report, after)) :
    ∃ logged, writer.Reaches options batch index state logged ∧
      outcomeOf options logged.toDelivery = .ok report ∧ after = logged.sink := by
  cases ensures : Index.ensure writer.sink writer.settings index state with
  | mk outcome ensured =>
    cases outcome with
    | error failure =>
      rw [write, if_neg (by simpa using holds), ensures] at written
      cases written
    | ok _ =>
      obtain ⟨logged, reached, returned, -, -⟩ :=
        writer.write_of_ensured options batch index state ensured holds ensures
          (fun _ _ _ _ _ _ _ _ => trivial) trivial
      rw [returned] at written
      obtain ⟨reports, rfl⟩ := Prod.mk.inj written
      exact ⟨logged, reached, reports, rfl⟩

end Writer

end RepoVitals.Bulk

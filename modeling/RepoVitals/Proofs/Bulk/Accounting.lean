import RepoVitals.Proofs.Bulk.Steady
import RepoVitals.Proofs.Bulk.Storing
/-!
Accounting: the report of a write adds up.

Owns:
- `Logged.Accounted`, which ties the account of every part to its calls and their answers;
- the sum of the accounts of all parts;
- `report_adds_up`: a report of success agrees with the batch, with the calls and with the store.
-/

namespace RepoVitals.Bulk

open Sink (Landing Memory Written)

variable {σ : Type}

/-! ### Answers -/

theorem Tally.storedOf_eq (sent : Nat) (verdicts : List Verdict) :
    storedOf sent verdicts = min (verdicts.countP Verdict.isStored) sent := by
  have all := List.length_eq_countP_add_countP Verdict.isStored (l := verdicts)
  have failures : (failuresOf verdicts).length =
      verdicts.countP (fun verdict => ¬verdict.isStored = true) := by
    rw [failuresOf, List.countP_eq_length_filter]
    simp
  rw [storedOf, failures, all, Nat.add_sub_cancel]

theorem Partition.succeeded_landed (part : Partition) (position time : Nat) (chunk : List Entry)
    (landing : Landing) :
    (part.landed chunk landing).tally.succeeded =
      part.tally.succeeded + Arrival.stored ⟨position, time, chunk, landing⟩ := by
  cases landing with
  | answered outcome =>
    cases outcome with
    | ok verdicts =>
      change _ + Tally.storedOf chunk.length verdicts = _
      rw [Tally.storedOf_eq]
      rfl
    | error failure => rfl
  | panicked => rfl

namespace Logged

/-- What the answers to the calls of a part amount to. -/
def storedBy (logged : Logged σ) (position : Nat) : Nat :=
  ((logged.arrivals.filter (fun arrival => arrival.part = position)).map Arrival.stored).sum

/-- How many calls a part has made. -/
def callsBy (logged : Logged σ) (position : Nat) : Nat :=
  logged.starts.countP (fun start => start.part = position)

/-- The account of a part counts its calls and what was stored by them. -/
structure Accounted (logged : Logged σ) : Prop where
  starts : ∀ start ∈ logged.starts, start.part < logged.writing.parts.length
  arrivals : ∀ arrival ∈ logged.arrivals, arrival.part < logged.writing.parts.length
  tally : ∀ position part, logged.writing.parts[position]? = some part →
    part.tally.requests = logged.callsBy position ∧
      part.tally.succeeded = logged.storedBy position

variable {sink : Sink σ} {origin : Delivery σ} {before after logged : Logged σ}

private theorem accounted_put {position : Nat} {part next : Partition} (state : σ)
    (airborne : List Airborne) (found : before.writing.parts[position]? = some part)
    (same : next.tally = part.tally) (accounted : before.Accounted) :
    Accounted { before with
      writing := before.writing.put position next
      sink := state
      airborne := airborne } where
  starts := by simpa [Writing.put] using accounted.starts
  arrivals := by simpa [Writing.put] using accounted.arrivals
  tally := Writing.forall_put found (same ▸ accounted.tally position part found)
    fun other otherPart _ isThere => accounted.tally other otherPart isThere

theorem Moves.accounted (moves : Moves sink before after) (sound : before.Sound origin)
    (accounted : before.Accounted) : after.Accounted := by
  cases moves with
  | shift position part next found shift =>
    exact accounted_put _ _ found shift.frame.2.2 accounted
  | dispatch position part chunk flight state found ready early taken flies =>
    have inside : position < before.writing.parts.length := (List.getElem?_eq_some_iff.mp found).1
    refine ⟨fun start isStart => ?_, ?_, Writing.forall_put found ?_ ?_⟩
    · simp only [Writing.put, List.length_set]
      rcases List.mem_append.mp isStart with old | new
      · exact accounted.starts start old
      · cases List.mem_singleton.mp new
        exact inside
    · simpa [Writing.put] using accounted.arrivals
    · have counted := accounted.tally position part found
      simp only [Partition.dispatch, Tally.add, callsBy, List.countP_append, List.countP_singleton,
        decide_true, ↓reduceIte, Nat.add_zero]
      exact ⟨congrArg (· + 1) counted.1, counted.2⟩
    · intro other otherPart different isThere
      have counted := accounted.tally other otherPart isThere
      simp only [callsBy, List.countP_append, List.countP_singleton, Ne.symm different,
        decide_false, Bool.false_eq_true, ↓reduceIte, Nat.add_zero]
      exact counted
  | land call part chunk landing state aloft found sending due lands =>
    have inside : call.part < before.writing.parts.length :=
      (List.getElem?_eq_some_iff.mp found).1
    have same : call.chunk = chunk := by
      obtain ⟨other, isThere, otherSending⟩ := sound.aloft call aloft
      rw [found] at isThere
      cases isThere
      rw [sending] at otherSending
      cases otherSending
      rfl
    refine ⟨by simpa [Writing.put] using accounted.starts, fun arrival isArrival => ?_,
      Writing.forall_put found ?_ ?_⟩
    · simp only [Writing.put, List.length_set]
      rcases List.mem_append.mp isArrival with old | new
      · exact accounted.arrivals arrival old
      · cases List.mem_singleton.mp new
        exact inside
    · have counted := accounted.tally call.part part found
      refine ⟨(part.landed_frame chunk landing).2.trans counted.1, ?_⟩
      rw [part.succeeded_landed call.part before.writing.clock, counted.2, same]
      simp [storedBy]
    · intro other otherPart different isThere
      have counted := accounted.tally other otherPart isThere
      simp only [storedBy, List.filter_append, List.filter_singleton, Ne.symm different,
        decide_false, cond_false, List.append_nil]
      exact counted
  | cut position part chunk found sending late => exact accounted_put _ _ found rfl accounted
  | pass nanoseconds waits may => exact ⟨accounted.starts, accounted.arrivals, accounted.tally⟩
  | conclude conclusion unconcluded now =>
    exact ⟨accounted.starts, accounted.arrivals, accounted.tally⟩

theorem accounted_of_course (fresh : origin.Fresh) (course : Course sink (new origin) logged) :
    logged.Accounted := by
  induction course with
  | refl =>
    refine ⟨nofun, nofun, fun position part found => ?_⟩
    rw [(fresh.parts part (List.mem_of_getElem? found)).2]
    exact ⟨rfl, rfl⟩
  | tail course moves inductionHypothesis =>
    exact moves.accounted (sound_of_course fresh course) inductionHypothesis

end Logged

/-! ### Calls and answers -/

private theorem perm_cons_filter {calls : List Airborne}
    (single : (calls.map Airborne.part).Nodup) {call : Airborne} (member : call ∈ calls) :
    calls.Perm (call :: calls.filter (fun other => other.part ≠ call.part)) := by
  induction calls with
  | nil => cases member
  | cons head rest inductionHypothesis =>
    rw [List.map_cons, List.nodup_cons] at single
    rcases List.mem_cons.mp member with rfl | later
    · have others : rest.filter (fun other => other.part ≠ call.part) = rest := by
        refine List.filter_eq_self.mpr fun other isOther => decide_eq_true fun same => ?_
        exact single.1 (same ▸ List.mem_map_of_mem isOther)
      rw [List.filter_cons_of_neg (by simp), others]
    · have elsewhere : head.part ≠ call.part := fun same =>
        single.1 (same ▸ List.mem_map_of_mem later)
      rw [List.filter_cons_of_pos (by simp [elsewhere])]
      exact ((inductionHypothesis single.2 later).cons head).trans (.swap _ _ _)

namespace Logged

variable {sink : Sink σ} {origin : Delivery σ} {before after logged : Logged σ}

/-- Every call has landed or is in the air. -/
def Answered (logged : Logged σ) : Prop :=
  (logged.starts.map fun start => (start.part, start.chunk)).Perm
    ((logged.arrivals.map fun arrival => (arrival.part, arrival.chunk)) ++
      logged.airborne.map fun call => (call.part, call.chunk))

theorem Moves.answered (moves : Moves sink before after) (sound : before.Sound origin)
    (answered : before.Answered) (noneAfter : ∀ part ∈ after.writing.parts, ¬part.isAbandoned) :
    after.Answered := by
  cases moves with
  | dispatch position part chunk flight state found ready early taken flies =>
    simp only [Answered, List.map_append, ← List.append_assoc]
    exact answered.append_right _
  | land call part chunk landing state aloft found sending due lands =>
    have down := (perm_cons_filter sound.single aloft).map fun call => (call.part, call.chunk)
    refine answered.trans ((down.append_left _).trans ?_)
    simp only [List.map_append, List.map_cons, List.map_nil, List.append_assoc,
      List.singleton_append]
    exact .refl _
  | cut position part chunk found sending late =>
    -- What is cut off now stays so, but nothing is in the end.
    have inside : position < before.writing.parts.length := (List.getElem?_eq_some_iff.mp found).1
    exact absurd rfl (noneAfter _ (List.mem_set inside _))
  | _ => exact answered

/-- While nothing is cut off, every call has landed or is in the air. -/
theorem answered_of_course (fresh : origin.Fresh) (course : Course sink (new origin) logged)
    (noneCut : ∀ part ∈ logged.writing.parts, ¬part.isAbandoned) : logged.Answered := by
  induction course with
  | refl => simp [Answered, new, fresh.grounded]
  | tail course moves inductionHypothesis =>
    refine moves.answered (sound_of_course fresh course) (inductionHypothesis ?_) noneCut
    intro part member isCut
    obtain ⟨position, inside, rfl⟩ := List.mem_iff_getElem.mp member
    have stays := moves.settled (List.getElem?_eq_getElem inside)
      ((Partition.isSettled_iff _).mpr (.inr (.inr isCut)))
    exact noneCut _ (List.mem_of_getElem? stays) isCut

end Logged

/-! ### Sums -/

/-- Accounts are added field by field. -/
theorem Tally.foldl_add (tallies : List Tally) (start : Tally) :
    tallies.foldl Tally.add start = start.add {
      requests := (tallies.map Tally.requests).sum
      succeeded := (tallies.map Tally.succeeded).sum
      failed := (tallies.map Tally.failed).sum
      failedRequests := (tallies.map Tally.failedRequests).sum } := by
  induction tallies generalizing start with
  | nil => rfl
  | cons head rest inductionHypothesis =>
    rw [List.foldl_cons, inductionHypothesis]
    simp only [Tally.add, List.map_cons, List.sum_cons, Nat.add_assoc]

private theorem sum_map_range_single (place amount bound : Nat) (inside : place < bound) :
    ((List.range bound).map fun position => if position = place then amount else 0).sum =
      amount := by
  induction bound with
  | zero => cases inside
  | succ bound inductionHypothesis =>
    rw [List.range_succ, List.map_append, List.sum_append, List.map_singleton, List.sum_singleton]
    by_cases here : bound = place
    · have before : ((List.range bound).map fun position =>
          if position = place then amount else 0).sum = 0 := by
        refine List.sum_eq_zero fun value isValue => ?_
        obtain ⟨position, isPosition, rfl⟩ := List.mem_map.mp isValue
        have below := List.mem_range.mp isPosition
        rw [if_neg (by omega)]
      rw [before, if_pos here, Nat.zero_add]
    · rw [inductionHypothesis (by omega), if_neg here, Nat.add_zero]

/-- A sum over some of the positions, and at each of them over the entries there, is a sum over
entries. -/
theorem sum_map_range_filter {α : Type} (weight place : α → Nat) (keeps : Nat → Bool)
    {entries : List α} {bound : Nat} (inside : ∀ entry ∈ entries, place entry < bound) :
    ((List.range bound).map fun position =>
        if keeps position then
          ((entries.filter (fun entry => place entry = position)).map weight).sum
        else 0).sum =
      ((entries.filter (fun entry => keeps (place entry))).map weight).sum := by
  induction entries with
  | nil => simp
  | cons head rest inductionHypothesis =>
    have others := inductionHypothesis fun entry member =>
      inside entry (List.mem_cons_of_mem _ member)
    -- The head counts at its own position, and nowhere else.
    have split : ∀ position,
        (if keeps position then
            (((head :: rest).filter (fun entry => place entry = position)).map weight).sum
          else 0) =
          (if position = place head then (if keeps (place head) then weight head else 0) else 0) +
            if keeps position then
              ((rest.filter (fun entry => place entry = position)).map weight).sum
            else 0 := by
      intro position
      by_cases here : position = place head
      · subst here
        cases keeps (place head) <;> simp
      · simp [here, Ne.symm here]
    rw [List.map_congr_left fun position _ => split position, List.sum_map_add,
      sum_map_range_single _ _ _ (inside head List.mem_cons_self), others, List.filter_cons]
    cases keeps (place head) <;> simp

theorem sum_map_eq_sum_range (parts : List Partition) (weight : Partition → Nat) :
    (parts.map weight).sum =
      ((List.range parts.length).map fun position =>
        ((parts[position]?).map weight).getD 0).sum := by
  refine congrArg List.sum (List.ext_getElem (by simp) fun position inside inside' => ?_)
  simp only [List.length_map] at inside
  simp [inside]

/-! ### The report -/

theorem Partition.account_of_ended {batchSize : Nat} {part : Partition}
    (sound : part.Sound batchSize) (ended : part.progress = .finished ∨ part.progress = .panicked) :
    part.account.succeeded + part.account.failed = part.documents.length ∧
      part.account.failedRequests ≤ part.account.requests := by
  rcases ended with finished | panicked
  · have balance := sound.balance (by simp [finished])
    have noneLeft := sound.finished finished
    simp only [pending, finished, noneLeft, List.length_nil, Nat.add_zero] at balance
    rw [account, if_neg (by simp [finished])]
    exact ⟨balance, sound.failedRequests_le⟩
  · rw [account, if_pos panicked]
    exact ⟨Nat.zero_add _, Nat.le_refl _⟩

namespace Logged

/-- The part at a position has panicked. -/
def hasPanicked (logged : Logged σ) (position : Nat) : Bool :=
  (logged.writing.parts[position]?).any (fun part => part.progress = .panicked)

variable {sink : Sink σ} {origin : Delivery σ} {logged : Logged σ}

/-- The accounts of all parts count the calls of those that have not panicked. -/
theorem Accounted.sum_requests (accounted : logged.Accounted) :
    (logged.writing.parts.map fun part => part.account.requests).sum =
      logged.starts.countP (fun start => !logged.hasPanicked start.part) := by
  have byPosition := sum_map_range_filter (fun _ : Start => 1) Start.part
    (fun position => !logged.hasPanicked position) accounted.starts
  have ones : ∀ starts : List Start, (starts.map fun _ => 1).sum = starts.length := by simp
  simp only [ones] at byPosition
  rw [sum_map_eq_sum_range, List.countP_eq_length_filter, ← byPosition]
  refine congrArg List.sum (List.map_congr_left fun position isPosition => ?_)
  have found := List.getElem?_eq_getElem (List.mem_range.mp isPosition)
  have counted := (accounted.tally position _ found).1
  rw [callsBy, List.countP_eq_length_filter] at counted
  simp only [found, Option.map_some, Option.getD_some, hasPanicked, Option.any_some,
    Partition.account]
  split <;> rename_i panicked <;> simp [panicked, counted]

theorem Accounted.sum_succeeded (accounted : logged.Accounted) :
    (logged.writing.parts.map fun part => part.account.succeeded).sum =
      ((logged.arrivals.filter (fun arrival => !logged.hasPanicked arrival.part)).map
        Arrival.stored).sum := by
  rw [sum_map_eq_sum_range, ← sum_map_range_filter Arrival.stored Arrival.part
    (fun position => !logged.hasPanicked position) accounted.arrivals]
  refine congrArg List.sum (List.map_congr_left fun position isPosition => ?_)
  have found := List.getElem?_eq_getElem (List.mem_range.mp isPosition)
  have counted := (accounted.tally position _ found).2
  simp only [storedBy] at counted
  simp only [found, Option.map_some, Option.getD_some, hasPanicked, Option.any_some,
    Partition.account]
  split <;> rename_i panicked <;> simp [panicked, counted]

theorem not_hasPanicked_of_calm (fresh : origin.Fresh) (course : Course sink (new origin) logged)
    (calm : ∀ arrival ∈ logged.arrivals, arrival.landing ≠ .panicked) (position : Nat) :
    logged.hasPanicked position = false := by
  unfold hasPanicked
  cases found : logged.writing.parts[position]? with
  | none => rfl
  | some part =>
    refine decide_eq_false fun panicked => ?_
    obtain ⟨arrival, isArrival, -, landed⟩ := panic_of_course fresh course found panicked
    exact calm arrival isArrival landed

end Logged

/-- A report of success agrees with the batch and with the calls. -/
structure WriteReport.AddsUp (options : WriteOptions) (batch : Batch) (logged : Logged σ)
    (report : WriteReport) : Prop where
  documents : report.documents = batch.documents.length
  partitions : report.partitions =
    (partition batch.documents.length options.parallelism options.batchSize).length
  /-- Every document is stored or not. -/
  balance : report.total.succeeded + report.total.failed = report.documents
  failedRequests : report.total.failedRequests ≤ report.total.requests
  /-- All calls have landed. -/
  answered : (logged.starts.map fun start => (start.part, start.chunk)).Perm
    (logged.arrivals.map fun arrival => (arrival.part, arrival.chunk))
  /-- Stored is what the answers say, apart from those to parts that panicked in the end. -/
  succeeded : report.total.succeeded =
    ((logged.arrivals.filter (fun arrival => !logged.hasPanicked arrival.part)).map
      Arrival.stored).sum
  requests : report.total.requests =
    logged.starts.countP (fun start => !logged.hasPanicked start.part)
  /-- Without a panic there is a call for every sub-batch. -/
  calm : (∀ arrival ∈ logged.arrivals, arrival.landing ≠ .panicked) →
    report.total.requests =
      ((partition batch.documents.length options.parallelism options.batchSize).map fun range =>
        ceilDiv range.length (max 1 options.batchSize)).sum

namespace Writer

section Reaches

variable {writer : Writer σ} {options : WriteOptions} {batch : Batch} {index : String} {state : σ}
  {logged : Logged σ} {report : WriteReport}

theorem Reaches.addsUp (reached : writer.Reaches options batch index state logged)
    (succeeded : outcomeOf options logged.toDelivery = .ok report) :
    report.AddsUp options batch logged := by
  have lengths := reached.lengths
  have documents := congrArg List.length reached.documents
  obtain ⟨ensured, -, course⟩ := reached.course
  have fresh := writer.fresh_delivery options batch index ensured
  have sound := Logged.sound_of_course fresh course
  have accounted := Logged.accounted_of_course fresh course
  obtain ⟨total, completed, rfl⟩ := completed_of_outcomeOf succeeded
  obtain ⟨ended, rfl⟩ := Logged.completed_of_course course fresh.unconcluded completed
  have accounts := fun part member =>
    Partition.account_of_ended (sound.parts part member) (ended part member)
  simp only [Tally.foldl_add, Tally.add, Tally.zero, Nat.zero_add, List.map_map,
    Function.comp_def] at succeeded ⊢
  exact {
    documents := documents
    partitions := by simpa using congrArg List.length lengths
    balance := by
      rw [List.length_flatMap, ← List.sum_map_add]
      exact congrArg List.sum (List.map_congr_left fun part member => (accounts part member).1)
    failedRequests := List.sum_le_sum fun part member => (accounts part member).2
    answered := by
      have grounded : logged.airborne = [] := by
        refine List.eq_nil_iff_forall_not_mem.mpr fun call aloft => ?_
        obtain ⟨part, found, sending⟩ := sound.aloft call aloft
        have hasEnded := ended part (List.mem_of_getElem? found)
        simp [sending] at hasEnded
      have answered := Logged.answered_of_course fresh course fun part member isCut => by
        have hasEnded := ended part member
        unfold Partition.isAbandoned at isCut
        rcases hasEnded with finished | panicked <;> simp_all
      rw [Logged.Answered, grounded, List.map_nil, List.append_nil] at answered
      exact answered
    succeeded := accounted.sum_succeeded
    requests := accounted.sum_requests
    calm := by
      intro calm
      have quiet := Logged.not_hasPanicked_of_calm fresh course calm
      rw [show ((partition batch.documents.length options.parallelism options.batchSize).map
          fun range => ceilDiv range.length (max 1 options.batchSize)) =
          (logged.writing.parts.map fun part => part.documents.length).map
            fun length => ceilDiv length (max 1 options.batchSize) by
        rw [lengths, List.map_map]
        rfl, List.map_map]
      refine congrArg List.sum (List.map_congr_left fun part member => ?_)
      obtain ⟨position, inside, rfl⟩ := List.mem_iff_getElem.mp member
      have notPanicked : logged.writing.parts[position].progress ≠ .panicked := by
        simpa [Logged.hasPanicked, inside] using quiet position
      have finished := (ended _ member).resolve_right notPanicked
      rw [Partition.account, if_neg notPanicked]
      exact (sound.parts _ member).requests_of_finished (sound.batchSize ▸ fresh.sends)
        finished |>.trans (by rw [sound.batchSize]; rfl) }

theorem Reaches.nodup_arrivals (reached : writer.Reaches options batch index state logged)
    (succeeded : outcomeOf options logged.toDelivery = .ok report) :
    ((logged.arrivals.flatMap Arrival.chunk).map Entry.id).Nodup := by
  have same := ((reached.addsUp succeeded).answered.map Prod.snd).flatten
  simp only [List.map_map, Function.comp_def, ← List.flatMap_def] at same
  exact (same.map Entry.id).nodup_iff.mp reached.nodup_starts

end Reaches

section Memory

variable {delay : Memory → String → List Entry → Nat} {settings : Index.Settings} {poolSize : Nat}
  {options : WriteOptions} {batch : Batch} {index : String} {store : Memory}
  {logged : Logged Memory} {report : WriteReport}

/-- A report of success counts the documents of the batch that the store wrote. -/
theorem Reaches.stores
    (reached : Reaches ⟨Sink.paced delay, settings, poolSize⟩ options batch index store logged)
    (succeeded : outcomeOf options logged.toDelivery = .ok report) :
    report.total.succeeded = batch.documents.countP
        (fun document => Written.mk index document ∈ logged.writes store.rejected) ∧
      ∀ document ∈ batch.documents,
        Sink.bodyUnder? logged.sink.documents index document.id =
          if Written.mk index document ∈ logged.writes store.rejected then some document.body
          else Sink.bodyUnder? store.documents index document.id := by
  have addsUp := reached.addsUp succeeded
  have adds := reached.adds
  have distinct := batch.unrepeated_ids
  obtain ⟨ensured, ensures, course⟩ := reached.course
  have fresh := fresh_delivery ⟨Sink.paced delay, settings, poolSize⟩ options batch index ensured
  have honest := Logged.honest_of_course course (Sink.adds_ensure ensures)
  have quiet := Logged.not_hasPanicked_of_calm fresh course fun arrival isArrival =>
    (honest arrival isArrival).1
  have once : ((logged.writes store.rejected).map fun written => written.document.id).Nodup := by
    have sublist := (logged.document_sublist_writes store.rejected).map Entry.id
    rw [List.map_map] at sublist
    exact sublist.nodup (reached.nodup_arrivals succeeded)
  constructor
  · have all : logged.arrivals.filter (fun arrival => !logged.hasPanicked arrival.part) =
        logged.arrivals := by simp [quiet]
    rw [addsUp.succeeded, all, honest.sum_stored, List.countP_eq_length_filter,
      ← List.length_map Written.document]
    refine List.Perm.length_eq ((List.perm_ext_iff_of_nodup ?_ ?_).mpr fun document => ?_)
    · exact .of_map Entry.id (by rwa [List.map_map])
    · exact .filter _ (.of_map Entry.id distinct)
    · rw [List.mem_filter, decide_eq_true_eq]
      constructor
      · intro member
        obtain ⟨written, isWritten, rfl⟩ := List.mem_map.mp member
        obtain ⟨rfl, isDocument⟩ := reached.mem_of_mem_writes isWritten
        exact ⟨isDocument, isWritten⟩
      · exact fun both => List.mem_map_of_mem both.2
  · intro document isDocument
    split
    · rename_i isWritten
      rw [adds.documents]
      exact Sink.bodyUnder?_foldl_of_mem isWritten once _
    · rename_i notWritten
      refine adds.untouched fun cargo isCargo written isWritten both => notWritten ?_
      have member : written ∈ logged.writes store.rejected :=
        List.mem_flatMap.mpr ⟨cargo, isCargo, isWritten⟩
      have same : written.document = document := List.inj_on_of_nodup_map distinct
        (reached.mem_of_mem_writes member).2 isDocument both.2
      rw [← both.1, ← same]
      exact member

end Memory

/-- **A report of success adds up.**  This holds wherever a write can get to and of what it returns,
an empty batch included; with the store in memory, whatever the delays of its calls, the successes
are just the documents of the batch that the write has stored. -/
theorem report_adds_up (writer : Writer σ) (options : WriteOptions) (batch : Batch)
    (index : String) (state : σ) :
    (∀ logged report, writer.Reaches options batch index state logged →
      outcomeOf options logged.toDelivery = .ok report → report.AddsUp options batch logged) ∧
    (∀ report after, writer.write options batch index state = (.ok report, after) →
      ∃ logged : Logged σ, report.AddsUp options batch logged ∧ after = logged.sink ∧
        (batch.documents ≠ [] → writer.Reaches options batch index state logged)) ∧
    (∀ delay settings poolSize store logged report,
      Reaches ⟨Sink.paced delay, settings, poolSize⟩ options batch index store logged →
      outcomeOf options logged.toDelivery = .ok report →
      report.total.succeeded = batch.documents.countP
          (fun document => Written.mk index document ∈ logged.writes store.rejected) ∧
        ∀ document ∈ batch.documents,
          Sink.bodyUnder? logged.sink.documents index document.id =
            if Written.mk index document ∈ logged.writes store.rejected then some document.body
            else Sink.bodyUnder? store.documents index document.id) := by
  refine ⟨fun logged report reached succeeded => reached.addsUp succeeded,
    fun report after written => ?_,
    fun delay settings poolSize store logged report reached succeeded =>
      reached.stores succeeded⟩
  by_cases isEmpty : batch.documents = []
  · rw [write, isEmpty, List.isEmpty_nil, if_pos rfl] at written
    cases written
    refine ⟨.new (writer.delivery options batch index state), ?_, rfl, fun holds =>
      absurd isEmpty holds⟩
    have noRanges :
      partition batch.documents.length options.parallelism options.batchSize = [] := by
      rw [isEmpty]
      rfl
    exact {
      documents := by rw [isEmpty]; rfl
      partitions := by rw [noRanges]; rfl
      balance := rfl
      failedRequests := Nat.le_refl _
      answered := .refl _
      succeeded := rfl
      requests := rfl
      calm := fun _ => by rw [noRanges]; rfl }
  · obtain ⟨logged, reached, succeeded, rfl⟩ := reaches_of_write isEmpty written
    exact ⟨logged, reached.addsUp succeeded, rfl, fun _ => reached⟩

/-- The store rejects one of three documents; the other two are stored and counted. -/
theorem report_adds_up_with_rejection :
    ∃ (logged : Logged Memory) (report returned : WriteReport) (after : Memory),
      Reaches ⟨Sink.memory, .standard, 1⟩ ⟨2, 1, 5⟩
        ⟨[("a", "1"), ("b", "2"), ("c", "3")], by decide⟩ "index" (.empty 1 ["b"] false 0) logged ∧
      report.total = ⟨3, 2, 1, 0⟩ ∧
      report.AddsUp ⟨2, 1, 5⟩ ⟨[("a", "1"), ("b", "2"), ("c", "3")], by decide⟩ logged ∧
      Sink.bodyUnder? logged.sink.documents "index" "a" = some "1" ∧
      Sink.bodyUnder? logged.sink.documents "index" "b" = none ∧
      write ⟨Sink.memory, .standard, 1⟩ ⟨2, 1, 5⟩
        ⟨[("a", "1"), ("b", "2"), ("c", "3")], by decide⟩ "index" (.empty 1 ["b"] false 0) =
          (.ok returned, after) ∧
      returned.documents = 3 := by
  have reached : Reaches ⟨Sink.memory, .standard, 1⟩ ⟨2, 1, 5⟩
      ⟨[("a", "1"), ("b", "2"), ("c", "3")], by decide⟩ "index" (.empty 1 ["b"] false 0) _ :=
    ⟨_, [.accept, .accept, .start, .send 0, .pass 1, .land 0, .send 0, .pass 1, .land 0, .start,
      .send 1, .pass 1, .land 1, .conclude], rfl, rfl⟩
  have facts := report_adds_up ⟨Sink.memory, .standard, 1⟩ ⟨2, 1, 5⟩
    ⟨[("a", "1"), ("b", "2"), ("c", "3")], by decide⟩ "index" (.empty 1 ["b"] false 0)
  have bodies := (facts.2.2 (fun store _ _ => store.latency) .standard 1 (.empty 1 ["b"] false 0)
    _ _ reached rfl).2
  obtain ⟨other, addsUp, -⟩ := facts.2.1 _ _ rfl
  exact ⟨_, _, _, _, reached, rfl, facts.1 _ _ reached rfl,
    (bodies ⟨"a", "1"⟩ (by decide)).trans (by decide +kernel),
    (bodies ⟨"b", "2"⟩ (by decide)).trans (by decide +kernel), rfl, addsUp.documents⟩

end Writer

end RepoVitals.Bulk

import RepoVitals.Proofs.Bulk.Accounting
import RepoVitals.Proofs.Sink.Rewriting
/-!
Serving: writes into a store that takes every call.

Owns:
- `Logged.Served`: a store without broken calls has taken in every call that landed, and changed
  nothing but its log and its documents;
- `Reaches.gains`: a write that ends in time has stored its whole batch, whatever the order of its
  calls;
- `Reaches.report_eq`: what it reports is told by the ids of the batch, apart from the time.
-/

namespace RepoVitals.Bulk

open Index (Settings)
open Sink (Cargo Memory Written)

variable {store : Memory} {options : WriteOptions} {batch : Batch} {index : String}
  {settings : Settings} {poolSize : Nat} {logged : Logged Memory} {report : WriteReport}

/-! ### Courses -/

theorem receive_unbroken (unbroken : store.broken = 0) (index : String) (documents : List Entry) :
    store.receive index documents =
      (.answered (.ok (documents.map store.judge)), { store with
        calls := store.calls ++ [⟨index, documents.map Entry.id⟩]
        documents := ((Cargo.mk index documents).writes store.rejected).foldl Written.onto
          store.documents }) := by
  rw [Memory.receive, if_neg (by omega)]
  simp only [Sink.Memory.foldl_put]

namespace Logged

/-- The store has taken in every call that landed, and changed nothing but its log and documents. -/
structure Served (store : Memory) (logged : Logged Memory) : Prop where
  sink : logged.sink =
    { store with calls := logged.sink.calls, documents := logged.sink.documents }
  taken : ∀ arrival ∈ logged.arrivals, arrival.landing.isTaken = true
  tallies : ∀ part ∈ logged.writing.parts, part.tally.failedRequests = 0

variable {before after : Logged Memory} {origin : Delivery Memory}

theorem Moves.served (moves : Moves Sink.memory before after) (unbroken : store.broken = 0)
    (served : before.Served store) : after.Served store := by
  have tally {position : Nat} {part : Partition}
      (found : before.writing.parts[position]? = some part) : part.tally.failedRequests = 0 :=
    served.tallies part (List.mem_of_getElem? found)
  cases moves with
  | shift position part next found shift =>
    refine ⟨served.sink, served.taken, Writing.forall_mem_put served.tallies ?_⟩
    rw [shift.frame.2.2]
    exact tally found
  | dispatch position part chunk flight state found ready early taken flies =>
    cases flies
    have same : part.tally.failedRequests = 0 := tally found
    exact ⟨served.sink, served.taken, Writing.forall_mem_put served.tallies same⟩
  | land call part chunk landing state aloft found sending due lands =>
    have received : before.sink.receive before.index call.chunk = (landing, state) := lands
    have stillUnbroken : before.sink.broken = 0 := by
      rw [served.sink]
      exact unbroken
    rw [receive_unbroken stillUnbroken] at received
    cases received
    have same : part.tally.failedRequests = 0 := tally found
    refine ⟨?_, ?_, Writing.forall_mem_put served.tallies same⟩
    · rw [served.sink]
    · intro arrival isArrival
      rcases List.mem_append.mp isArrival with old | new
      · exact served.taken arrival old
      · rw [List.mem_singleton.mp new]
        rfl
  | cut position part chunk found sending late =>
    have same : part.tally.failedRequests = 0 := tally found
    exact ⟨served.sink, served.taken, Writing.forall_mem_put served.tallies same⟩
  | pass nanoseconds waits may => exact ⟨served.sink, served.taken, served.tallies⟩
  | conclude conclusion unconcluded now => exact ⟨served.sink, served.taken, served.tallies⟩

theorem served_of_course (unbroken : origin.sink.broken = 0) (fresh : origin.Fresh)
    (course : Course Sink.memory (new origin) logged) : logged.Served origin.sink := by
  induction course with
  | refl =>
    refine ⟨rfl, nofun, fun part member => ?_⟩
    rw [(fresh.parts part member).2]
    rfl
  | tail _ moves inductionHypothesis => exact moves.served unbroken inductionHypothesis

end Logged

theorem Logged.Served.calm (served : logged.Served store) :
    ∀ arrival ∈ logged.arrivals, arrival.landing ≠ .panicked := by
  intro arrival isArrival panicked
  have taken := served.taken arrival isArrival
  rw [panicked] at taken
  cases taken

theorem Logged.Served.writes_eq (served : logged.Served store) (rejected : List String) :
    logged.writes rejected =
      (Cargo.mk logged.index (logged.arrivals.flatMap Arrival.chunk)).writes rejected := by
  have all : logged.arrivals.filter (fun arrival => arrival.landing.isTaken) = logged.arrivals :=
    List.filter_eq_self.mpr served.taken
  rw [Logged.writes, Logged.cargos, all, List.flatMap_map]
  simp only [Cargo.writes, List.filter_flatMap, List.map_flatMap]

/-! ### Writes -/

namespace Writer

/-- Making sure of the index, and then a course that the store has served. -/
theorem Reaches.served
    (reached : Reaches ⟨Sink.memory, settings, poolSize⟩ options batch index store logged)
    (unbroken : store.broken = 0) :
    ∃ ensured, Memory.Gains [⟨index, []⟩] store ensured ∧ logged.Served ensured := by
  obtain ⟨ensured, ensures, course⟩ := reached.course
  obtain ⟨_, same, gains⟩ := Sink.Memory.exists_ensured settings index store
  obtain rfl : _ = ensured := congrArg Prod.snd (same.symm.trans ensures)
  refine ⟨_, gains, Logged.served_of_course ?_ (fresh_delivery _ options batch index _) course⟩
  exact gains.broken.trans unbroken

theorem Reaches.sameKnobs
    (reached : Reaches ⟨Sink.memory, settings, poolSize⟩ options batch index store logged)
    (unbroken : store.broken = 0) :
    Memory.SameKnobs store logged.sink := by
  obtain ⟨ensured, gains, served⟩ := reached.served unbroken
  rw [served.sink]
  exact ⟨gains.latency, gains.rejected, gains.broken⟩

/-- What the calls of a write that ends in time amount to. -/
theorem Reaches.perm_writes
    (reached : Reaches ⟨Sink.memory, settings, poolSize⟩ options batch index store logged)
    (unbroken : store.broken = 0)
    (succeeded : outcomeOf options logged.toDelivery = .ok report) :
    (logged.writes store.rejected).Perm
      ((Cargo.mk index batch.documents).writes store.rejected) := by
  obtain ⟨ensured, -, served⟩ := reached.served unbroken
  have sent := reached.perm_starts succeeded served.calm
  have landed := ((reached.addsUp succeeded).answered.map Prod.snd).flatten
  simp only [List.map_map, Function.comp_def, ← List.flatMap_def] at landed
  rw [served.writes_eq, reached.index_eq]
  exact ((landed.symm.trans sent).filter _).map _

/-- A write that ends in time has stored its whole batch. -/
theorem Reaches.gains
    (reached : Reaches ⟨Sink.memory, settings, poolSize⟩ options batch index store logged)
    (unbroken : store.broken = 0)
    (succeeded : outcomeOf options logged.toDelivery = .ok report) :
    Memory.Gains [⟨index, batch.documents⟩] store logged.sink := by
  have once : (((Cargo.mk index batch.documents).writes store.rejected).map
      fun written => written.document.id).Nodup := by
    rw [Cargo.writes, List.map_map]
    exact (List.filter_sublist.map Entry.id).nodup batch.unrepeated_ids
  have documents := reached.adds.documents
  obtain ⟨ensured, gains, served⟩ := reached.served unbroken
  constructor
  · exact reached.sameKnobs unbroken
  · rw [documents, List.flatMap_singleton]
    exact Sink.foldl_onto_of_perm (reached.perm_writes unbroken succeeded) once
  · rw [served.sink]
    exact gains.kept
  · intro cargo member
    rw [List.mem_singleton.mp member, served.sink]
    exact gains.ensured ⟨index, []⟩ List.mem_cons_self
  · intro present
    rw [served.sink]
    refine gains.quiet fun cargo member => ?_
    rw [List.mem_singleton.mp member]
    exact present ⟨index, batch.documents⟩ List.mem_cons_self

/-- A store that takes every call lets none of them fail. -/
theorem Reaches.failedRequests_eq
    (reached : Reaches ⟨Sink.memory, settings, poolSize⟩ options batch index store logged)
    (unbroken : store.broken = 0)
    (succeeded : outcomeOf options logged.toDelivery = .ok report) :
    report.total.failedRequests = 0 := by
  obtain ⟨ensured, -, served⟩ := reached.served unbroken
  obtain ⟨started, -, course⟩ := reached.course
  have fresh := fresh_delivery ⟨Sink.memory, settings, poolSize⟩ options batch index started
  obtain ⟨total, completed, rfl⟩ := completed_of_outcomeOf succeeded
  rw [(Logged.completed_of_course course fresh.unconcluded completed).2, Tally.foldl_add]
  change 0 + ((logged.writing.parts.map Partition.account).map Tally.failedRequests).sum = 0
  rw [Nat.zero_add]
  refine List.sum_eq_zero fun count isCount => ?_
  obtain ⟨account, isAccount, rfl⟩ := List.mem_map.mp isCount
  obtain ⟨part, member, rfl⟩ := List.mem_map.mp isAccount
  unfold Partition.account
  split
  · rfl
  · exact served.tallies part member

/-- What is reported of a load that a store takes in, but for the time. -/
def reportOf (options : WriteOptions) (rejected : List String) (index : String)
    (ids : List String) : WriteReport :=
  let ranges := partition ids.length options.parallelism options.batchSize
  let stored := ids.countP (fun id => !rejected.contains id)
  { index := index
    documents := ids.length
    partitions := ranges.length
    total := {
      requests := (ranges.map fun range => ceilDiv range.length (max 1 options.batchSize)).sum
      succeeded := stored
      failed := ids.length - stored
      failedRequests := 0 }
    elapsed := 0 }

theorem Reaches.report_eq
    (reached : Reaches ⟨Sink.memory, settings, poolSize⟩ options batch index store logged)
    (unbroken : store.broken = 0)
    (succeeded : outcomeOf options logged.toDelivery = .ok report) :
    { report with elapsed := 0 } =
      reportOf options store.rejected index (batch.documents.map Entry.id) := by
  have addsUp := reached.addsUp succeeded
  have writes := reached.perm_writes unbroken succeeded
  have stored : report.total.succeeded =
      (batch.documents.map Entry.id).countP (fun id => !store.rejected.contains id) := by
    rw [(reached.stores succeeded).1, List.countP_map]
    refine List.countP_congr fun document member => ?_
    rw [decide_eq_true_iff, writes.mem_iff, Cargo.writes, List.mem_map]
    simp [member]
  have sameIndex : report.index = index := by
    obtain ⟨_, -, rfl⟩ := completed_of_outcomeOf succeeded
    exact reached.index_eq
  obtain ⟨ensured, -, served⟩ := reached.served unbroken
  have requests := addsUp.calm served.calm
  have noneFailed := reached.failedRequests_eq unbroken succeeded
  have balance := addsUp.balance
  have documents := addsUp.documents
  have partitions := addsUp.partitions
  obtain ⟨_, _, _, ⟨_, _, failed, _⟩, _⟩ := report
  simp only at sameIndex noneFailed stored balance documents partitions requests
  subst sameIndex noneFailed stored documents partitions requests
  simp only [reportOf, List.length_map, WriteReport.mk.injEq, Tally.mk.injEq, true_and, and_true]
  omega

end Writer

end RepoVitals.Bulk

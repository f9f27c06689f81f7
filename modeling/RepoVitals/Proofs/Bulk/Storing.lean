import RepoVitals.Proofs.Bulk.Times
import RepoVitals.Proofs.Sink.Memory
/-!
Storing: what a write leaves in the store in memory.

Owns:
- `Logged.cargos`, the calls that the sink took in, and `Logged.writes`, what the store writes for
  them;
- `Reaches.adds`: a write adds just these calls to the store;
- `Logged.Honest`: the answers of the store count what it writes.
-/

namespace RepoVitals.Bulk

open Sink (Cargo Landing Memory Written)

variable {σ : Type}

/-- How many documents an answer says are stored: the successes, but no more than were sent. -/
def Arrival.stored (arrival : Arrival) : Nat :=
  match arrival.landing with
  | .answered (.ok verdicts) => min (verdicts.countP Verdict.isStored) arrival.chunk.length
  | _ => 0

namespace Logged

/-- The calls that the sink took in, with their documents. -/
def cargos (logged : Logged σ) : List Cargo :=
  (logged.arrivals.filter (fun arrival => arrival.landing.isTaken)).map
    (fun arrival => ⟨logged.index, arrival.chunk⟩)

/-- What the store wrote for the calls of a write. -/
def writes (rejected : List String) (logged : Logged σ) : List Written :=
  logged.cargos.flatMap (Cargo.writes rejected)

variable {delay : Memory → String → List Entry → Nat} {before after logged : Logged Memory}
  {store : Memory} {origin : Delivery Memory}

/-! ### The store follows the calls -/

theorem Moves.adds (moves : Moves (Sink.paced delay) before after)
    (adds : store.Adds before.cargos before.sink) : store.Adds after.cargos after.sink := by
  cases moves with
  | dispatch position part chunk flight state found ready early taken flies =>
    cases flies
    exact adds
  | land call part chunk landing state aloft found sending due lands =>
    have received : before.sink.receive before.index call.chunk = (landing, state) := lands
    have more := adds.trans (before.sink.adds_receive before.index call.chunk)
    rw [received] at more
    have grown : Logged.cargos { before with
        arrivals := before.arrivals ++ [⟨call.part, before.writing.clock, call.chunk, landing⟩] } =
        before.cargos ++ if landing.isTaken then [⟨before.index, call.chunk⟩] else [] := by
      rw [Logged.cargos, List.filter_append, List.map_append, List.filter_singleton]
      cases landing.isTaken <;> rfl
    exact grown ▸ more
  | _ => exact adds

theorem adds_of_course (course : Course (Sink.paced delay) before after)
    (adds : store.Adds before.cargos before.sink) : store.Adds after.cargos after.sink := by
  induction course with
  | refl => exact adds
  | tail _ moves inductionHypothesis => exact moves.adds inductionHypothesis

/-! ### The answers of the store -/

/-- The answers of the store count what it writes. -/
def Honest (store : Memory) (logged : Logged Memory) : Prop :=
  ∀ arrival ∈ logged.arrivals, arrival.landing ≠ .panicked ∧
    arrival.stored =
      if arrival.landing.isTaken then
        ((Cargo.mk logged.index arrival.chunk).writes store.rejected).length
      else 0

theorem Moves.honest (moves : Moves (Sink.paced delay) before after)
    (adds : store.Adds before.cargos before.sink) (honest : before.Honest store) :
    after.Honest store := by
  cases moves with
  | land call part chunk landing state aloft found sending due lands =>
    intro arrival isArrival
    rcases List.mem_append.mp isArrival with old | new
    · exact honest arrival old
    · cases List.mem_singleton.mp new
      have received : before.sink.receive before.index call.chunk = (landing, state) := lands
      have cases := before.sink.receive_cases before.index call.chunk
      rw [received] at cases
      -- What the store rejects is the same all along.
      rcases cases with ⟨rfl, -⟩ | ⟨⟨failure, rfl⟩, -⟩
      · refine ⟨nofun, ?_⟩
        have counted := before.sink.countP_judge before.index call.chunk
        have atMost : (call.chunk.map before.sink.judge).countP Verdict.isStored ≤
            (call.chunk.map before.sink.judge).length := List.countP_le_length
        rw [counted, adds.rejected, List.length_map] at atMost
        simp only [Arrival.stored, Landing.isTaken, ↓reduceIte, counted, adds.rejected]
        exact Nat.min_eq_left atMost
      · exact ⟨nofun, rfl⟩
  | _ => exact honest

theorem honest_of_course (course : Course (Sink.paced delay) (new origin) logged)
    (adds : store.Adds [] origin.sink) : logged.Honest store := by
  induction course with
  | refl => exact nofun
  | tail course moves inductionHypothesis =>
    exact moves.honest (adds_of_course course adds) inductionHypothesis

theorem Honest.sum_stored (honest : logged.Honest store) :
    (logged.arrivals.map Arrival.stored).sum = (logged.writes store.rejected).length := by
  unfold Honest at honest
  unfold writes cargos
  generalize logged.arrivals = arrivals at honest ⊢
  induction arrivals with
  | nil => rfl
  | cons head rest inductionHypothesis =>
    have others := inductionHypothesis fun arrival member =>
      honest arrival (List.mem_cons_of_mem _ member)
    rw [List.map_cons, List.sum_cons, (honest head List.mem_cons_self).2, others, List.filter_cons]
    split
    · rw [List.map_cons, List.flatMap_cons, List.length_append]
    · rw [Nat.zero_add]

theorem document_sublist_writes (rejected : List String) (logged : Logged σ) :
    ((logged.writes rejected).map Written.document).Sublist
      (logged.arrivals.flatMap Arrival.chunk) := by
  unfold writes cargos
  induction logged.arrivals with
  | nil => exact .slnil
  | cons head rest inductionHypothesis =>
    rw [List.filter_cons, List.flatMap_cons]
    split
    · rw [List.map_cons, List.flatMap_cons, List.map_append]
      refine .append ?_ inductionHypothesis
      rw [Cargo.writes, List.map_map]
      exact (List.map_id _).symm ▸ List.filter_sublist
    · exact inductionHypothesis.trans (List.sublist_append_right _ _)

end Logged

namespace Writer

variable {writer : Writer σ} {options : WriteOptions} {batch : Batch} {index : String} {state : σ}
  {logged : Logged σ}

/-- Every call that the store took in is one of the calls of the write, whole. -/
theorem Reaches.start_of_cargo (reached : writer.Reaches options batch index state logged)
    {cargo : Cargo} (member : cargo ∈ logged.cargos) :
    cargo.index = index ∧ ∃ arrival ∈ logged.arrivals, arrival.chunk = cargo.documents ∧
      ∃ start ∈ logged.starts, start.chunk = cargo.documents := by
  obtain ⟨arrival, isTaken, rfl⟩ := List.mem_map.mp member
  have isArrival := (List.mem_filter.mp isTaken).1
  obtain ⟨-, start, isStart, -, sameChunk, -⟩ := reached.timed.2 arrival isArrival
  obtain ⟨ensured, -, course⟩ := reached.course
  exact ⟨(Logged.frame_of_course course).index, arrival, isArrival, rfl, start, isStart, sameChunk⟩

theorem Reaches.mem_of_mem_writes (reached : writer.Reaches options batch index state logged)
    {rejected : List String} {written : Written} (member : written ∈ logged.writes rejected) :
    written.index = index ∧ written.document ∈ batch.documents := by
  obtain ⟨cargo, isCargo, isWritten⟩ := List.mem_flatMap.mp member
  obtain ⟨sameIndex, carried⟩ := Memory.mem_of_mem_writes isWritten
  obtain ⟨ofIndex, -, -, -, start, isStart, sameChunk⟩ := reached.start_of_cargo isCargo
  exact ⟨sameIndex.trans ofIndex,
    (reached.each_start isStart).2.2.2.subset (sameChunk ▸ carried)⟩

theorem Reaches.adds {delay : Memory → String → List Entry → Nat} {settings : Index.Settings}
    {poolSize : Nat} {store : Memory} {logged : Logged Memory}
    (reached : Reaches ⟨Sink.paced delay, settings, poolSize⟩ options batch index store logged) :
    store.Adds logged.cargos logged.sink := by
  obtain ⟨ensured, ensures, course⟩ := reached.course
  exact Logged.adds_of_course course (Sink.adds_ensure ensures)

end Writer

end RepoVitals.Bulk

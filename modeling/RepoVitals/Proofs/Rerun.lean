import RepoVitals.Proofs.Assembly.Moments
import RepoVitals.Proofs.Bulk.Twins
import RepoVitals.Proofs.Pipeline
/-!
Runs that are repeated.

Owns:
- runs in time: the same run, where a write may take any course that ends with a report;
- `told`: what a run in time reports and what it loads into the store, in which neither the store
  nor the courses have a say, and which another moment changes in the dates alone;
- the steady run, which is a run in time unless a write times out, and which a store that goes by
  the same repeats;
- `reruns_overwrite`: a run that is repeated adds nothing to the store and reports the same.
-/

namespace RepoVitals

open Assembly (Executor Inquiry Occasion Plan)
open Bulk (Logged WriteOptions WriteReport Writer)
open Calendar (Moment)
open Catalogue (Family)
open Index (Settings)
open Search (Request Response)
open Sink (Cargo Memory)

/-! ### Runs in time -/

/-- The results that a computation may have in a world, each with the world that it leaves then. -/
def Ways (ω α : Type) : Type := ω → α → ω → Prop

instance {ω : Type} : Monad (Ways ω) where
  pure value := fun before result after => result = value ∧ after = before
  bind way next := fun before result after =>
    ∃ value between, way before value between ∧ next value between result after

theorem Ways.pure_iff {ω α : Type} {value result : α} {before after : ω} :
    (pure value : Ways ω α) before result after ↔ result = value ∧ after = before :=
  Iff.rfl

theorem Ways.bind_iff
    {ω α β : Type}
    {way : Ways ω α}
    {next : α → Ways ω β}
    {result : β}
    {before after : ω} :
    (way >>= next) before result after ↔
      ∃ value between, way before value between ∧ next value between result after :=
  Iff.rfl

namespace Pipeline

variable {σ : Type}

/-- A write that ends in time, by whatever course.  A batch without documents needs none. -/
inductive WritesInTime (pipeline : Pipeline σ) (batch : Batch) (index : String)
    (before : World σ) : Outcome WriteReport → World σ → Prop where
  | nothing (empty : batch.documents = []) :
      WritesInTime pipeline batch index before (.ok (Writer.nothingToWrite index)) before
  | written {logged : Logged σ} {report : WriteReport}
      (holds : batch.documents ≠ [])
      (reached : pipeline.writer.Reaches pipeline.options batch index before.sink logged)
      (reports : Writer.outcomeOf pipeline.options logged.toDelivery = .ok report) :
      WritesInTime pipeline batch index before (.ok report) { before with sink := logged.sink }

/-- The services of a pipeline whose writes end in time. -/
def inTime (pipeline : Pipeline σ) : Services (Ways (World σ)) where
  inquire inquiry := fun before outcome after => pipeline.inquire inquiry before = (outcome, after)
  write := pipeline.WritesInTime

/-- What a run may come to if every write of it ends in time. -/
def RunsInTime (pipeline : Pipeline σ) (families : List Family) (occasion : Occasion)
    (before : World σ) (outcome : Outcome (List FamilyReport)) (after : World σ) : Prop :=
  pipeline.inTime.run pipeline.procedure families occasion before outcome after

end Pipeline

/-! ### What a run comes to -/

/-- The report without the time that the write took. -/
def FamilyReport.untimed (report : FamilyReport) : FamilyReport :=
  { report with write := { report.write with elapsed := 0 } }

/-- The load that a batch is for a store. -/
def Batch.cargos (batch : Batch) (index : String) : List Cargo :=
  if batch.documents = [] then [] else [⟨index, batch.documents⟩]

theorem Batch.Restamped.cargos {batch batch' : Batch} (restamped : batch.Restamped batch')
    (index : String) :
    List.Forall₂ (Cargo.SamePlaces DifferInDate) (batch.cargos index) (batch'.cargos index) := by
  have documents : List.Forall₂ (fun document document' : Entry => document.id = document'.id ∧
      DifferInDate document.body document'.body) batch.documents batch'.documents := by
    rw [Batch.documents, Batch.documents, List.forall₂_map_left_iff, List.forall₂_map_right_iff]
    exact restamped
  unfold Batch.cargos
  by_cases empty : batch.documents = []
  · rw [if_pos empty, if_pos]
    · exact .nil
    · rwa [empty, List.forall₂_nil_left_iff] at documents
  · rw [if_neg empty, if_neg]
    · exact .cons ⟨rfl, documents⟩ .nil
    · intro empty'
      rw [empty', List.forall₂_nil_right_iff] at documents
      exact empty documents

namespace Pipeline

/-- The reports without times. -/
def untimed (outcome : Outcome (List FamilyReport)) : Outcome (List FamilyReport) :=
  outcome.map (List.map FamilyReport.untimed)

section Told

variable (answer : Request → Outcome Response) (plan : Plan) (options : WriteOptions)
  (rejected : List String) (occasion : Occasion)

/-- The report without its time and the load of a family's turn. -/
def toldTurn (family : Family) : Outcome FamilyReport × List Cargo :=
  match (Assembly.assemble plan family occasion).resultBy answer with
  | .error failure => (.error (failure.within (.assembling family.name)), [])
  | .ok batch =>
    let index := family.index occasion.date
    (.ok ⟨family, occasion.repositories.length,
      Writer.reportOf options rejected index (batch.documents.map Entry.id)⟩, batch.cargos index)

/-- The same for all turns up to the first family that cannot be assembled. -/
def toldTurns : List Family → Outcome (List FamilyReport) × List Cargo
  | [] => (.ok [], [])
  | family :: rest =>
    match toldTurn answer plan options rejected occasion family with
    | (.error failure, cargos) => (.error failure, cargos)
    | (.ok report, cargos) => ((toldTurns rest).1.map (report :: ·), cargos ++ (toldTurns rest).2)

/-- The same for a whole run, which comes to nothing if it cannot find the repositories. -/
def told (discoveryLimit : Nat) (families : List Family) :
    Outcome (List FamilyReport) × List Cargo :=
  let repositories :=
    if occasion.repositories.isEmpty then (Assembly.discover discoveryLimit).resultBy answer
    else .ok occasion.repositories
  match repositories with
  | .error failure => (.error failure, [])
  | .ok repositories =>
    toldTurns answer plan options rejected { occasion with repositories := repositories } families

variable {answer plan options rejected}

theorem toldTurn_moment (runAt : Moment) (family : Family) :
    (toldTurn answer plan options rejected { occasion with runAt := runAt } family).1 =
        (toldTurn answer plan options rejected occasion family).1 ∧
      List.Forall₂ (Cargo.SamePlaces DifferInDate)
        (toldTurn answer plan options rejected occasion family).2
        (toldTurn answer plan options rejected { occasion with runAt := runAt } family).2 := by
  unfold toldTurn
  cases assembled : (Assembly.assemble plan family occasion).resultBy answer with
  | error failure =>
    rw [Assembly.error_of_moment assembled runAt]
    exact ⟨rfl, .nil⟩
  | ok batch =>
    obtain ⟨batch', assembled', restamped⟩ := Assembly.restamped_of_assembled assembled runAt
    simp only [assembled', restamped.ids_eq, true_and]
    exact restamped.cargos _

theorem toldTurns_moment (runAt : Moment) (families : List Family) :
    (toldTurns answer plan options rejected { occasion with runAt := runAt } families).1 =
        (toldTurns answer plan options rejected occasion families).1 ∧
      List.Forall₂ (Cargo.SamePlaces DifferInDate)
        (toldTurns answer plan options rejected occasion families).2
        (toldTurns answer plan options rejected { occasion with runAt := runAt } families).2 := by
  induction families with
  | nil => exact ⟨rfl, .nil⟩
  | cons family rest inductionHypothesis =>
    obtain ⟨reports, loads⟩ := inductionHypothesis
    obtain ⟨report, load⟩ := @toldTurn_moment answer plan options rejected occasion runAt family
    unfold toldTurns
    generalize toldTurn answer plan options rejected occasion family = turn at report load ⊢
    generalize toldTurn answer plan options rejected _ family = turn' at report load ⊢
    obtain ⟨failure | reported, cargos⟩ := turn <;> obtain ⟨_, cargos'⟩ := turn' <;> cases report
    · exact ⟨rfl, load⟩
    · exact ⟨congrArg (Except.map (reported :: ·)) reports, List.rel_append load loads⟩

/-- At another moment a run reports the same, and its loads are for the same places. -/
theorem told_moment (runAt : Moment) (discoveryLimit : Nat) (families : List Family) :
    (told answer plan options rejected { occasion with runAt := runAt } discoveryLimit families).1 =
        (told answer plan options rejected occasion discoveryLimit families).1 ∧
      List.Forall₂ (Cargo.SamePlaces DifferInDate)
        (told answer plan options rejected occasion discoveryLimit families).2
        (told answer plan options rejected { occasion with runAt := runAt } discoveryLimit
          families).2 := by
  simp only [told]
  split
  · exact ⟨rfl, .nil⟩
  · rename_i repositories _
    exact toldTurns_moment { occasion with repositories := repositories } runAt families

end Told

/-! ### Runs in time into a store in memory -/

/-- The pipeline of a store in memory, with an executor that answers the same search alike. -/
def inMemory (answer : Request → Outcome Response) (settings : Settings) (poolSize : Nat)
    (options : WriteOptions) (procedure : Procedure) : Pipeline Memory :=
  ⟨.steady answer, ⟨Sink.memory, settings, poolSize⟩, options, procedure⟩

variable {answer : Request → Outcome Response} {settings : Settings} {poolSize : Nat}
  {options : WriteOptions} {procedure : Procedure} {plan : Plan} {occasion : Occasion}
  {families : List Family} {before between after : World Memory}
  {outcome outcome' : Outcome (List FamilyReport)}

/-- An inquiry does not touch the store, and the past has no say in its result. -/
theorem inquire_inMemory {α : Type} (inquiry : Inquiry α) (world : World Memory) :
    (inMemory answer settings poolSize options procedure).inquire inquiry world =
      (inquiry.resultBy answer, ⟨(inquiry.run (.steady answer) world.asked).1, world.sink⟩) :=
  Prod.ext (Inquiry.run_steady inquiry world.asked) rfl

theorem of_inquire
    {α : Type}
    {inquiry : Inquiry α}
    {outcome : Outcome α}
    (inquires : (inMemory answer settings poolSize options procedure).inquire inquiry before =
      (outcome, after)) :
    inquiry.resultBy answer = outcome ∧ after.sink = before.sink := by
  rw [inquire_inMemory] at inquires
  cases inquires
  exact ⟨rfl, rfl⟩

theorem gains_of_writesInTime
    {batch : Batch}
    {index : String}
    {outcome : Outcome WriteReport}
    (unbroken : before.sink.broken = 0)
    (writes : (inMemory answer settings poolSize options procedure).WritesInTime batch index before
      outcome after) :
    ∃ report, outcome = .ok report ∧
      { report with elapsed := 0 } = Writer.reportOf options before.sink.rejected index
        (batch.documents.map Entry.id) ∧
      Memory.Gains (batch.cargos index) before.sink after.sink := by
  cases writes with
  | nothing empty =>
    refine ⟨_, rfl, ?_, ?_⟩
    · rw [empty]
      rfl
    · rw [Batch.cargos, if_pos empty]
      exact .refl _
  | written holds reached reports =>
    refine ⟨_, rfl, reached.report_eq unbroken reports, ?_⟩
    rw [Batch.cargos, if_neg holds]
    exact reached.gains unbroken reports

theorem told_of_familyTurn
    {family : Family}
    {outcome : Outcome FamilyReport}
    (unbroken : before.sink.broken = 0)
    (turn : (inMemory answer settings poolSize options procedure).inTime.familyTurn plan family
      occasion before outcome after) :
    outcome.map FamilyReport.untimed =
        (toldTurn answer plan options before.sink.rejected occasion family).1 ∧
      Memory.Gains (toldTurn answer plan options before.sink.rejected occasion family).2 before.sink
        after.sink := by
  obtain ⟨assembled, started, inquires, goesOn⟩ := Ways.bind_iff.mp turn
  obtain ⟨isResult, sameSink⟩ := of_inquire inquires
  rw [← sameSink] at unbroken ⊢
  cases assembled with
  | error failure =>
    obtain ⟨rfl, rfl⟩ := Ways.pure_iff.mp goesOn
    simp only [toldTurn, isResult]
    exact ⟨rfl, .refl _⟩
  | ok batch =>
    obtain ⟨written, wrote, writes, goesOn⟩ := Ways.bind_iff.mp goesOn
    obtain ⟨report, rfl, isReport, gains⟩ := gains_of_writesInTime unbroken writes
    obtain ⟨rfl, rfl⟩ := Ways.pure_iff.mp goesOn
    simp only [toldTurn, isResult, ← isReport]
    exact ⟨rfl, gains⟩

theorem told_of_familyTurns
    (unbroken : before.sink.broken = 0)
    (turns : (inMemory answer settings poolSize options procedure).inTime.familyTurns plan occasion
      families before outcome after) :
    untimed outcome = (toldTurns answer plan options before.sink.rejected occasion families).1 ∧
      Memory.Gains (toldTurns answer plan options before.sink.rejected occasion families).2
        before.sink after.sink := by
  induction families generalizing before outcome after with
  | nil =>
    obtain ⟨rfl, rfl⟩ := Ways.pure_iff.mp turns
    exact ⟨rfl, .refl _⟩
  | cons family rest inductionHypothesis =>
    obtain ⟨reported, between, turn, goesOn⟩ := Ways.bind_iff.mp turns
    obtain ⟨report, gains⟩ := told_of_familyTurn unbroken turn
    unfold toldTurns
    generalize toldTurn answer plan options before.sink.rejected occasion family = told
      at report gains ⊢
    obtain ⟨_, cargos⟩ := told
    cases report
    cases reported with
    | error failure =>
      obtain ⟨rfl, rfl⟩ := Ways.pure_iff.mp goesOn
      exact ⟨rfl, gains⟩
    | ok reported =>
      obtain ⟨others, final, turns, goesOn⟩ := Ways.bind_iff.mp goesOn
      -- The store that the family leaves goes by the same as the one that it found.
      obtain ⟨reports, loads⟩ := inductionHypothesis (gains.broken.trans unbroken) turns
      rw [gains.rejected] at reports loads
      simp only [← reports]
      cases others <;>
      · obtain ⟨rfl, rfl⟩ := Ways.pure_iff.mp goesOn
        exact ⟨rfl, gains.trans loads⟩

/-- A run in time comes to what is told of it, whatever the courses of its writes. -/
theorem told_of_runsInTime
    (unbroken : before.sink.broken = 0)
    (runs : (inMemory answer settings poolSize options procedure).RunsInTime families occasion
      before outcome after) :
    untimed outcome = (told answer procedure.plan options before.sink.rejected occasion
        procedure.discoveryLimit families).1 ∧
      Memory.Gains (told answer procedure.plan options before.sink.rejected occasion
        procedure.discoveryLimit families).2 before.sink after.sink := by
  unfold RunsInTime Services.run at runs
  unfold told
  by_cases none : occasion.repositories.isEmpty = true
  · simp only [if_pos none] at runs ⊢
    obtain ⟨found, started, inquires, goesOn⟩ := Ways.bind_iff.mp runs
    obtain ⟨isResult, sameSink⟩ := of_inquire inquires
    simp only [inMemory] at isResult
    rw [← sameSink] at unbroken ⊢
    rw [isResult]
    cases found with
    | error failure =>
      obtain ⟨rfl, rfl⟩ := Ways.pure_iff.mp goesOn
      exact ⟨rfl, .refl _⟩
    | ok repositories => exact told_of_familyTurns unbroken goesOn
  · simp only [if_neg none] at runs ⊢
    exact told_of_familyTurns unbroken runs

/-- What a second run leaves of the store that the first one left. -/
structure Overwrites (sameMoment : Prop) (between after : Memory) : Prop extends
    Memory.Overwritten DifferInDate between after where
  ids : ∀ index id,
    id ∈ (after.documentsOf index).keys ↔ id ∈ (between.documentsOf index).keys
  documents : sameMoment → after.documents = between.documents

theorem overwrites_of_runsInTime
    {runAt : Moment}
    (unbroken : before.sink.broken = 0)
    (first : (inMemory answer settings poolSize options procedure).RunsInTime families occasion
      before outcome between)
    (second : (inMemory answer settings poolSize options procedure).RunsInTime families
      { occasion with runAt := runAt } between outcome' after) :
    untimed outcome' = untimed outcome ∧
      Overwrites (runAt = occasion.runAt) between.sink after.sink := by
  obtain ⟨reports, gains⟩ := told_of_runsInTime unbroken first
  obtain ⟨reports', gains'⟩ := told_of_runsInTime (gains.broken.trans unbroken) second
  rw [gains.rejected] at reports' gains'
  obtain ⟨sameReports, places⟩ := told_moment occasion runAt procedure.discoveryLimit families
  have overwritten := gains.again gains' places
  refine ⟨?_, overwritten, overwritten.ids_iff, ?_⟩
  · rw [reports, reports', sameReports]
  · rintro rfl
    exact gains.documents_again gains'

/-! ### Steady runs -/

/-- A batch of the run has timed out. -/
def TimedOut {α : Type} (timeout : Nat) (outcome : Outcome α) : Prop :=
  ∃ family index outstanding, outcome =
    .error ((Failure.ofCause (.bulkWriteTimeout index timeout outstanding)).within
      (.writing family index))

theorem timeout_of_write
    {batch : Batch}
    {index : String}
    {failure : Failure}
    (writes : (inMemory answer settings poolSize options procedure).write batch index before =
      (.error failure, after)) :
    ∃ outstanding, failure = .ofCause (.bulkWriteTimeout index options.timeout outstanding) := by
  have holds : batch.documents ≠ [] := by
    intro empty
    rw [Pipeline.write, Writer.write_of_empty _ _ _ _ empty] at writes
    cases writes
  obtain ⟨ensured, ensures, -⟩ := Memory.exists_ensured settings index before.sink
  obtain ⟨logged, reached, written, -⟩ := Writer.write_of_ensured ⟨Sink.memory, settings, poolSize⟩
    options batch index before.sink ensured holds ensures (fun _ _ _ _ _ _ _ _ => trivial) trivial
  have outcome := congrArg Prod.fst writes
  simp only [Pipeline.write, inMemory, written, Writer.outcomeOf, reached.index_eq] at outcome
  split at outcome
  · cases outcome
  · cases outcome
    exact ⟨_, rfl⟩
  · cases outcome
    exact ⟨_, rfl⟩

theorem writesInTime_of_write
    {batch : Batch}
    {index : String}
    {report : WriteReport}
    (writes : (inMemory answer settings poolSize options procedure).write batch index before =
      (.ok report, after)) :
    (inMemory answer settings poolSize options procedure).WritesInTime batch index before
      (.ok report) after := by
  by_cases empty : batch.documents = []
  · rw [Pipeline.write, Writer.write_of_empty _ _ _ _ empty] at writes
    cases writes
    exact .nothing empty
  · cases course : Writer.write ⟨Sink.memory, settings, poolSize⟩ options batch index
        before.sink with
    | mk written sink =>
      simp only [Pipeline.write, inMemory, course] at writes
      cases writes
      obtain ⟨logged, reached, reports, rfl⟩ := Writer.reaches_of_write empty course
      exact .written empty reached reports

theorem inTime_of_familyTurn
    {family : Family}
    {outcome : Outcome FamilyReport}
    (turn : (inMemory answer settings poolSize options procedure).services.familyTurn plan family
      occasion before = (outcome, after)) :
    TimedOut options.timeout outcome ∨
      (inMemory answer settings poolSize options procedure).inTime.familyTurn plan family occasion
        before outcome after := by
  rw [services_familyTurn_eq] at turn
  cases inquires : (inMemory answer settings poolSize options procedure).inquire
      (Assembly.assemble plan family occasion) before with
  | mk assembled started =>
    rw [inquires] at turn
    cases assembled with
    | error failure =>
      cases turn
      exact .inr ⟨_, _, inquires, rfl, rfl⟩
    | ok batch =>
      cases writes : (inMemory answer settings poolSize options procedure).write batch
          (family.index occasion.date) started with
      | mk written wrote =>
        simp only [writes] at turn
        cases written with
        | error failure =>
          obtain ⟨outstanding, rfl⟩ := timeout_of_write writes
          cases turn
          exact .inl ⟨_, _, outstanding, rfl⟩
        | ok report =>
          cases turn
          exact .inr ⟨_, _, inquires, _, _, writesInTime_of_write writes, rfl, rfl⟩

theorem inTime_of_familyTurns
    (turns : (inMemory answer settings poolSize options procedure).services.familyTurns plan
      occasion families before = (outcome, after)) :
    TimedOut options.timeout outcome ∨
      (inMemory answer settings poolSize options procedure).inTime.familyTurns plan
        occasion families before outcome after := by
  induction families generalizing before after outcome with
  | nil =>
    cases turns
    exact .inr ⟨rfl, rfl⟩
  | cons family rest inductionHypothesis =>
    rw [familyTurns_cons] at turns
    cases turn : (inMemory answer settings poolSize options procedure).services.familyTurn plan
        family occasion before with
    | mk reported between =>
      rw [turn] at turns
      cases reported with
      | error failure =>
        cases turns
        rcases inTime_of_familyTurn turn with ⟨name, index, outstanding, timedOut⟩ | inTime
        · cases timedOut
          exact .inl ⟨name, index, outstanding, rfl⟩
        · exact .inr ⟨_, _, inTime, rfl, rfl⟩
      | ok report =>
        have inTime := (inTime_of_familyTurn turn).resolve_left nofun
        cases later : (inMemory answer settings poolSize options procedure).services.familyTurns
            plan occasion rest between with
        | mk others final =>
          simp only [later] at turns
          cases others with
          | error failure =>
            cases turns
            rcases inductionHypothesis later with ⟨name, index, outstanding, timedOut⟩ | laterInTime
            · cases timedOut
              exact .inl ⟨name, index, outstanding, rfl⟩
            · exact .inr ⟨_, _, inTime, _, _, laterInTime, rfl, rfl⟩
          | ok reports =>
            cases turns
            have laterInTime := (inductionHypothesis later).resolve_left nofun
            exact .inr ⟨_, _, inTime, _, _, laterInTime, rfl, rfl⟩

/-- The steady schedule is one of the courses: it makes a run in time, unless a batch times out. -/
theorem runsInTime_of_run
    (runs : (inMemory answer settings poolSize options procedure).run families occasion before =
      (outcome, after)) :
    TimedOut options.timeout outcome ∨
      (inMemory answer settings poolSize options procedure).RunsInTime families occasion
        before outcome after := by
  rw [run_eq] at runs
  unfold RunsInTime Services.run
  by_cases none : occasion.repositories.isEmpty = true
  · rw [if_pos none] at runs ⊢
    cases inquires : (inMemory answer settings poolSize options procedure).inquire
        (Assembly.discover procedure.discoveryLimit) before with
    | mk found started =>
      simp only [inMemory] at inquires runs
      rw [inquires] at runs
      cases found with
      | error failure =>
        cases runs
        exact .inr ⟨_, _, inquires, rfl, rfl⟩
      | ok repositories =>
        exact (inTime_of_familyTurns runs).imp_right fun inTime => ⟨_, _, inquires, inTime⟩
  · rw [if_neg none] at runs ⊢
    exact inTime_of_familyTurns runs

/-! ### Repeated steady runs -/

theorem familyTurn_twins
    {family : Family}
    {outcome : Outcome FamilyReport}
    (turn : (inMemory answer settings poolSize options procedure).services.familyTurn plan family
      occasion before = (outcome, after))
    (second : World Memory)
    (same : Memory.SameKnobs before.sink second.sink)
    (runAt : Moment) :
    ∃ after', (inMemory answer settings poolSize options procedure).services.familyTurn plan family
        { occasion with runAt := runAt } second = (outcome, after') ∧
      Memory.SameKnobs after.sink after'.sink := by
  rw [services_familyTurn_eq, inquire_inMemory] at turn ⊢
  cases assembled : (Assembly.assemble plan family occasion).resultBy answer with
  | error failure =>
    rw [assembled] at turn
    cases turn
    rw [Assembly.error_of_moment assembled runAt]
    exact ⟨_, rfl, same⟩
  | ok batch =>
    obtain ⟨batch', assembled', restamped⟩ := Assembly.restamped_of_assembled assembled runAt
    obtain ⟨written, store⟩ := @Writer.write_twins options settings poolSize _ _ _ _
      restamped.ids_eq same (family.index occasion.date)
    rw [assembled] at turn
    rw [assembled']
    simp only [Pipeline.write, inMemory, written] at turn ⊢
    generalize Writer.write _ options batch _ before.sink = course at turn store ⊢
    obtain ⟨failure | report, sink⟩ := course <;>
    · cases turn
      exact ⟨_, rfl, store⟩

/-- Turns whose stores go by the same come to the same, at whatever moments. -/
theorem familyTurns_twins
    (turns : (inMemory answer settings poolSize options procedure).services.familyTurns plan
      occasion families before = (outcome, after))
    (second : World Memory)
    (same : Memory.SameKnobs before.sink second.sink)
    (runAt : Moment) :
    ∃ after', (inMemory answer settings poolSize options procedure).services.familyTurns plan
        { occasion with runAt := runAt } families second = (outcome, after') ∧
      Memory.SameKnobs after.sink after'.sink := by
  induction families generalizing before second outcome after with
  | nil =>
    cases turns
    exact ⟨second, rfl, same⟩
  | cons family rest inductionHypothesis =>
    rw [familyTurns_cons] at turns ⊢
    cases turn : (inMemory answer settings poolSize options procedure).services.familyTurn plan
        family occasion before with
    | mk reported between =>
      obtain ⟨between', turn', sameBetween⟩ := familyTurn_twins turn second same runAt
      rw [turn] at turns
      rw [turn']
      cases reported with
      | error failure =>
        cases turns
        exact ⟨between', rfl, sameBetween⟩
      | ok report =>
        cases later : (inMemory answer settings poolSize options procedure).services.familyTurns
            plan occasion rest between with
        | mk others final =>
          obtain ⟨final', later', sameFinal⟩ := inductionHypothesis later between' sameBetween
          simp only [later] at turns
          simp only [later']
          cases others <;> cases turns <;> exact ⟨final', rfl, sameFinal⟩

theorem run_twins
    (runs : (inMemory answer settings poolSize options procedure).run families occasion before =
      (outcome, after))
    (second : World Memory)
    (same : Memory.SameKnobs before.sink second.sink)
    (runAt : Moment) :
    ∃ after', (inMemory answer settings poolSize options procedure).run families
      { occasion with runAt := runAt } second = (outcome, after') := by
  rw [run_eq, inquire_inMemory] at runs ⊢
  by_cases none : occasion.repositories.isEmpty = true
  · simp only [none, if_true] at runs ⊢
    cases found : (Assembly.discover (inMemory answer settings poolSize options
        procedure).procedure.discoveryLimit).resultBy answer with
    | error failure =>
      rw [found] at runs
      cases runs
      exact ⟨_, rfl⟩
    | ok repositories =>
      rw [found] at runs
      obtain ⟨after', turns, -⟩ := familyTurns_twins runs
        ⟨((Assembly.discover procedure.discoveryLimit).run (.steady answer) second.asked).1,
          second.sink⟩ same runAt
      exact ⟨after', turns⟩
  · rw [if_neg none] at runs ⊢
    obtain ⟨after', turns, -⟩ := familyTurns_twins runs second same runAt
    exact ⟨after', turns⟩

/-! ### Reruns -/

/-- **A run that is repeated overwrites.**  Let a store in memory take every call, and let every
write end in time.  Whatever the families, the repositories and the date, a second run creates no
index, leaves each index with the ids that it has and with bodies that differ in their current dates
alone, and reports the same but for the times, at whatever moment it takes place and by whatever
courses its writes go.  At the moment of the first run it leaves all documents as they are.  On the
steady schedule it ends in time because the first run did, and reports the times of the first run,
too. -/
theorem reruns_overwrite
    (answer : Request → Outcome Response)
    (settings : Settings)
    (poolSize : Nat)
    (options : WriteOptions)
    (procedure : Procedure)
    (families : List Family)
    (occasion : Occasion)
    (runAt : Moment)
    (world : World Memory)
    (unbroken : world.sink.broken = 0) :
    let pipeline := inMemory answer settings poolSize options procedure
    let again : Occasion := { occasion with runAt := runAt }
    (∀ outcome outcome' between after,
      pipeline.RunsInTime families occasion world outcome between →
      pipeline.RunsInTime families again between outcome' after →
      untimed outcome' = untimed outcome ∧
        Overwrites (runAt = occasion.runAt) between.sink after.sink) ∧
    (∀ outcome between, pipeline.run families occasion world = (outcome, between) →
      TimedOut options.timeout outcome ∨
      ∃ after, pipeline.run families again between = (outcome, after) ∧
        Overwrites (runAt = occasion.runAt) between.sink after.sink) := by
  refine ⟨fun outcome outcome' between after => overwrites_of_runsInTime unbroken,
    fun outcome between runs => ?_⟩
  rcases runsInTime_of_run runs with timedOut | first
  · exact .inl timedOut
  · have knobs := (told_of_runsInTime unbroken first).2.toSameKnobs
    obtain ⟨after, rerun⟩ := run_twins runs between knobs runAt
    rcases runsInTime_of_run rerun with timedOut | second
    · exact .inl timedOut
    · exact .inr ⟨after, rerun, (overwrites_of_runsInTime unbroken first second).2⟩

/-- One release is checked in one repository, and the same again an hour later. -/
theorem reruns_overwrite_release_check :
    let answer : Request → Outcome Response := fun _ =>
      .ok ⟨some 3, [], Ledger.ofList [("issue_assignees", .object [("buckets", .array [])])]⟩
    let pipeline := inMemory answer .standard 1 ⟨1, 1, 5⟩ ⟨⟨true, [⟨"3.0.0", "open"⟩], 1⟩, 10⟩
    let occasion : Occasion := ⟨["alpha"], ⟨2024, 6, 1, by decide⟩, ⟨1717200000, 0⟩⟩
    let index := Family.releases.index occasion.date
    let report : FamilyReport := ⟨.releases, 1, ⟨index, 1, 1, ⟨1, 1, 0, 0⟩, 1⟩⟩
    ∃ between after,
      pipeline.run [.releases] occasion ⟨[], .empty 1 [] false 0⟩ = (.ok [report], between) ∧
      pipeline.run [.releases] { occasion with runAt := ⟨1717203600, 0⟩ } between =
        (.ok [report], after) ∧
      between.sink.indexes = [index] ∧ after.sink.indexes = between.sink.indexes ∧
      ∀ id, id ∈ (after.sink.documentsOf index).keys ↔
        id ∈ (between.sink.documentsOf index).keys := by
  intro answer pipeline occasion index report
  let document : Document := ⟨(occasion.filing .releases).origin "alpha",
    .release ⟨"3.0.0", "open"⟩ ⟨3, 3, 3, 3, 3, ⟨none, []⟩⟩⟩
  have assembled : (Assembly.assemble pipeline.procedure.plan .releases occasion).resultBy answer =
      .ok (Batch.ofDocuments [document]) := by
    have checks : (Assembly.assemble pipeline.procedure.plan .releases occasion).resultBy answer =
        .ok (Assembly.batchOfChecks [⟨0, 0, document⟩]) := rfl
    rw [checks, Assembly.batchOfChecks_singleton]
  have course : ∃ between : World Memory,
      pipeline.run [.releases] occasion ⟨[], .empty 1 [] false 0⟩ = (.ok [report], between) ∧
        between.sink.indexes = [index] := by
    have listed : ¬occasion.repositories.isEmpty = true := by decide
    rw [run_eq, if_neg listed, familyTurns_cons, services_familyTurn_eq, inquire_inMemory,
      assembled]
    generalize document = document
    simp only [pipeline, inMemory, Pipeline.write, Writer.write, Writer.delivery,
      partition_of_single]
    exact ⟨_, rfl, rfl⟩
  obtain ⟨between, first, indexes⟩ := course
  have inTime : ¬TimedOut 5 (.ok [report] : Outcome (List FamilyReport)) := by
    rintro ⟨_, _, _, fails⟩
    cases fails
  obtain ⟨-, steady⟩ := reruns_overwrite answer .standard 1 ⟨1, 1, 5⟩ _ [.releases] occasion
    ⟨1717203600, 0⟩ ⟨[], .empty 1 [] false 0⟩ rfl
  obtain ⟨after, second, overwrites⟩ := (steady _ _ first).resolve_left inTime
  exact ⟨between, after, first, second, indexes, overwrites.indexes, overwrites.ids index⟩

end Pipeline

end RepoVitals

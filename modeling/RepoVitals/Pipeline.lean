import RepoVitals.Assembly.Batches
import RepoVitals.Bulk.Write
/-!
The pipeline: assemble each family's batch and write it into the family's index.

Owns:
- one family's turn, and the run over all requested families, which finds the repositories first if
  none are given and stops at the first failure;
- the pipeline around an executor and a sink, with the equations that follow its world through a
  run.

A run needs two services, whatever effects they have: inquiries must be answered and batches
written.  What was written before a failure stays written.
-/

namespace RepoVitals

open Assembly (Executor Inquiry Occasion Plan)
open Bulk (WriteOptions WriteReport Writer)
open Catalogue (Family)
open Search (Request)

/-- How one family's turn went. -/
structure FamilyReport where
  family : Family
  repositories : Nat
  write : WriteReport
  deriving DecidableEq

/-! ### Runs -/

/-- What a run needs: answers to inquiries, and a place for batches. -/
structure Services (m : Type → Type) where
  inquire : {α : Type} → Inquiry α → m (Outcome α)
  write : Batch → String → m (Outcome WriteReport)

/-- How a run goes about it: the plan of its assemblies, and how many repositories it finds at
most. -/
structure Procedure where
  plan : Plan
  discoveryLimit : Nat

namespace Services

variable {m : Type → Type} [Monad m]

/-- One family's turn: assemble its batch, then write it. -/
def familyTurn (services : Services m) (plan : Plan) (family : Family) (occasion : Occasion) :
    m (Outcome FamilyReport) := do
  match ← services.inquire (Assembly.assemble plan family occasion) with
  | .error failure => return .error (failure.within (.assembling family.name))
  | .ok batch =>
    let index := family.index occasion.date
    match ← services.write batch index with
    | .error failure => return .error (failure.within (.writing family.name index))
    | .ok report => return .ok ⟨family, occasion.repositories.length, report⟩

/-- The families' turns, in order, up to the first failure. -/
def familyTurns (services : Services m) (plan : Plan) (occasion : Occasion) :
    List Family → m (Outcome (List FamilyReport))
  | [] => return .ok []
  | family :: rest => do
    match ← services.familyTurn plan family occasion with
    | .error failure => return .error failure
    | .ok report =>
      match ← services.familyTurns plan occasion rest with
      | .error failure => return .error failure
      | .ok reports => return .ok (report :: reports)

/-- The whole run.  Without repositories the cluster is asked which ones there are. -/
def run (services : Services m) (procedure : Procedure) (families : List Family)
    (occasion : Occasion) : m (Outcome (List FamilyReport)) := do
  if occasion.repositories.isEmpty then
    match ← services.inquire (Assembly.discover procedure.discoveryLimit) with
    | .error failure => return .error failure
    | .ok repositories =>
      services.familyTurns procedure.plan { occasion with repositories := repositories } families
  else services.familyTurns procedure.plan occasion families

end Services

/-! ### Around an executor and a sink -/

/-- The world of a run: the searches asked so far and the sink. -/
structure World (σ : Type) where
  asked : List Request
  sink : σ

/-- A procedure with an executor and a writer. -/
structure Pipeline (σ : Type) where
  executor : Executor
  writer : Writer σ
  options : WriteOptions
  procedure : Procedure

namespace Pipeline

variable {σ : Type}

/-- Run an inquiry in the world. -/
def inquire {α : Type} (pipeline : Pipeline σ) (inquiry : Inquiry α) (world : World σ) :
    Outcome α × World σ :=
  let (asked, outcome) := inquiry.run pipeline.executor world.asked
  (outcome, { world with asked := asked })

/-- Write a batch in the world. -/
def write (pipeline : Pipeline σ) (batch : Batch) (index : String) (world : World σ) :
    Outcome WriteReport × World σ :=
  let (written, sink) := pipeline.writer.write pipeline.options batch index world.sink
  (written, { world with sink := sink })

/-- The services of a pipeline. -/
def services (pipeline : Pipeline σ) : Services (StateM (World σ)) where
  inquire inquiry := pipeline.inquire inquiry
  write batch index := pipeline.write batch index

/-- The whole run, from one world to the next. -/
def run (pipeline : Pipeline σ) (families : List Family) (occasion : Occasion)
    (world : World σ) : Outcome (List FamilyReport) × World σ :=
  pipeline.services.run pipeline.procedure families occasion world

/-! ### Runs step by step

The same definitions with the world written out. -/

theorem services_familyTurn_eq (pipeline : Pipeline σ) (plan : Plan) (family : Family)
    (occasion : Occasion) (world : World σ) :
    pipeline.services.familyTurn plan family occasion world =
      match pipeline.inquire (Assembly.assemble plan family occasion) world with
      | (.error failure, after) => (.error (failure.within (.assembling family.name)), after)
      | (.ok batch, after) =>
        match pipeline.write batch (family.index occasion.date) after with
        | (.error failure, final) =>
          (.error (failure.within (.writing family.name (family.index occasion.date))), final)
        | (.ok report, final) =>
          (.ok ⟨family, occasion.repositories.length, report⟩, final) := by
  simp only [Services.familyTurn, services, bind, StateT.bind]
  rcases pipeline.inquire (Assembly.assemble plan family occasion) world with ⟨outcome, after⟩
  cases outcome with
  | error failure => rfl
  | ok batch =>
    simp only [StateT.bind]
    rcases pipeline.write batch (family.index occasion.date) after with ⟨written, final⟩
    cases written <;> rfl

theorem familyTurns_nil (pipeline : Pipeline σ) (plan : Plan) (occasion : Occasion)
    (world : World σ) :
    pipeline.services.familyTurns plan occasion [] world = (.ok [], world) := rfl

theorem familyTurns_cons (pipeline : Pipeline σ) (plan : Plan) (occasion : Occasion)
    (family : Family) (rest : List Family) (world : World σ) :
    pipeline.services.familyTurns plan occasion (family :: rest) world =
      match pipeline.services.familyTurn plan family occasion world with
      | (.error failure, after) => (.error failure, after)
      | (.ok report, after) =>
        match pipeline.services.familyTurns plan occasion rest after with
        | (.error failure, final) => (.error failure, final)
        | (.ok reports, final) => (.ok (report :: reports), final) := by
  rw [Services.familyTurns]
  simp only [bind, StateT.bind]
  rcases pipeline.services.familyTurn plan family occasion world with ⟨outcome, after⟩
  cases outcome with
  | error failure => rfl
  | ok report =>
    simp only [StateT.bind]
    rcases pipeline.services.familyTurns plan occasion rest after with ⟨others, final⟩
    cases others <;> rfl

theorem run_eq (pipeline : Pipeline σ) (families : List Family) (occasion : Occasion)
    (world : World σ) :
    pipeline.run families occasion world =
      if occasion.repositories.isEmpty then
        match pipeline.inquire (Assembly.discover pipeline.procedure.discoveryLimit) world with
        | (.error failure, after) => (.error failure, after)
        | (.ok repositories, after) =>
          pipeline.services.familyTurns pipeline.procedure.plan
            { occasion with repositories := repositories } families after
      else
        pipeline.services.familyTurns pipeline.procedure.plan occasion families world := by
  unfold run Services.run
  split
  · simp only [bind, StateT.bind, services]
    rcases pipeline.inquire (Assembly.discover pipeline.procedure.discoveryLimit) world with
      ⟨outcome, after⟩
    cases outcome <;> rfl
  · rfl

end Pipeline

end RepoVitals

import RepoVitals.Pipeline
import RepoVitals.Proofs.Assembly.Order
import RepoVitals.Proofs.Sink.Watched
import RepoVitals.Sink.Memory
/-!
What a run leaves behind.

Owns:
- runs over families that are cut into two parts;
- the pipeline whose sink is watched, which takes the same course;
- `failed_run_leaves_prefix`: a run that fails at a family has done what the run over the families
  before it does, and then that family's own turn up to the failure; a run that succeeds has one
  report for each family.
-/

namespace RepoVitals

open Assembly (Executor Occasion Plan)
open Catalogue (Family)
open Search (Request)
open Sink (Contact Memory Watched)

variable {σ : Type}

namespace Pipeline

/-! ### Parts of a run -/

/-- The repositories of a run: those it is given, or those that the cluster knows. -/
def repositories (pipeline : Pipeline σ) (occasion : Occasion) (world : World σ) :
    Outcome (List String) × World σ :=
  if occasion.repositories.isEmpty then
    pipeline.inquire (Assembly.discover pipeline.procedure.discoveryLimit) world
  else (.ok occasion.repositories, world)

variable (pipeline : Pipeline σ) (plan : Plan) (occasion : Occasion)

theorem run_eq_turns (families : List Family) (world : World σ) :
    pipeline.run families occasion world =
      match pipeline.repositories occasion world with
      | (.error failure, after) => (.error failure, after)
      | (.ok repositories, after) =>
        pipeline.services.familyTurns pipeline.procedure.plan
          { occasion with repositories := repositories } families after := by
  rw [run_eq, repositories]
  by_cases none : occasion.repositories.isEmpty
  · rw [if_pos none, if_pos none]
    rcases pipeline.inquire (Assembly.discover pipeline.procedure.discoveryLimit) world with
      ⟨failure | repositories, after⟩ <;> rfl
  · rw [if_neg none, if_neg none]

theorem familyTurns_append (earlier later : List Family) (world : World σ) :
    pipeline.services.familyTurns plan occasion (earlier ++ later) world =
      match pipeline.services.familyTurns plan occasion earlier world with
      | (.error failure, after) => (.error failure, after)
      | (.ok reports, between) =>
        match pipeline.services.familyTurns plan occasion later between with
        | (.error failure, after) => (.error failure, after)
        | (.ok others, after) => (.ok (reports ++ others), after) := by
  induction earlier generalizing world with
  | nil =>
    rw [List.nil_append, familyTurns_nil]
    simp only [List.nil_append]
    rcases pipeline.services.familyTurns plan occasion later world with
      ⟨failure | others, after⟩ <;> rfl
  | cons family rest inductionHypothesis =>
    rw [List.cons_append, familyTurns_cons, familyTurns_cons]
    rcases pipeline.services.familyTurn plan family occasion world with ⟨failure | report, between⟩
    · rfl
    · simp only [inductionHypothesis]
      rcases pipeline.services.familyTurns plan occasion rest between with ⟨failure | reports, mid⟩
      · rfl
      · simp only
        rcases pipeline.services.familyTurns plan occasion later mid with
          ⟨failure | others, after⟩ <;> rfl

variable {pipeline plan occasion}

theorem family_of_familyTurn
    {family : Family}
    {world after : World σ}
    {report : FamilyReport}
    (course : pipeline.services.familyTurn plan family occasion world = (.ok report, after)) :
    report.family = family := by
  rw [services_familyTurn_eq] at course
  split at course
  · cases course
  · split at course
    · cases course
    · cases course
      rfl

theorem families_of_familyTurns
    {families : List Family}
    {world after : World σ}
    {reports : List FamilyReport}
    (course : pipeline.services.familyTurns plan occasion families world = (.ok reports, after)) :
    reports.map FamilyReport.family = families := by
  induction families generalizing world reports with
  | nil =>
    rw [familyTurns_nil] at course
    cases course
    rfl
  | cons family rest inductionHypothesis =>
    rw [familyTurns_cons] at course
    split at course
    · cases course
    · rename_i report between turn
      split at course
      · cases course
      · rename_i others final turns
        cases course
        rw [List.map_cons, family_of_familyTurn turn, inductionHypothesis turns]

/-- A run over families that fails does so in the turn of one of them, after the turns of those
before it. -/
theorem exists_failed_turn
    {families : List Family}
    {world after : World σ}
    {failure : Failure}
    (course : pipeline.services.familyTurns plan occasion families world =
      (.error failure, after)) :
    ∃ position family reports between,
      families[position]? = some family ∧
      pipeline.services.familyTurns plan occasion (families.take position) world =
        (.ok reports, between) ∧
      pipeline.services.familyTurn plan family occasion between = (.error failure, after) := by
  induction families generalizing world with
  | nil =>
    rw [familyTurns_nil] at course
    cases course
  | cons family rest inductionHypothesis =>
    rw [familyTurns_cons] at course
    split at course
    · rename_i turn
      cases course
      exact ⟨0, family, [], world, rfl, rfl, turn⟩
    · rename_i report next turn
      split at course
      · rename_i turns
        cases course
        obtain ⟨position, later, reports, between, named, earlier, fails⟩ :=
          inductionHypothesis turns
        refine ⟨position + 1, later, report :: reports, between, named, ?_, fails⟩
        rw [List.take_succ_cons, familyTurns_cons, turn]
        simp only [earlier]
      · cases course

theorem familyTurns_take_succ
    {families : List Family}
    {position : Nat}
    {family : Family}
    {world between after : World σ}
    {reports : List FamilyReport}
    {failure : Failure}
    (named : families[position]? = some family)
    (earlier : pipeline.services.familyTurns plan occasion (families.take position) world =
      (.ok reports, between))
    (fails : pipeline.services.familyTurn plan family occasion between = (.error failure, after)) :
    pipeline.services.familyTurns plan occasion (families.take (position + 1)) world =
      (.error failure, after) := by
  rw [List.take_add_one, named, familyTurns_append, earlier]
  simp only [Option.toList_some, familyTurns_cons, fails]

end Pipeline

/-! ### Under watch -/

/-- The world at the beginning of a watch. -/
def World.watched (world : World σ) : World (Watched σ) := ⟨world.asked, ⟨world.sink, []⟩⟩

/-- The world without the notes. -/
def World.plain (world : World (Watched σ)) : World σ := ⟨world.asked, world.sink.plain⟩

namespace Pipeline

/-- The pipeline whose sink notes every contact. -/
def watched (pipeline : Pipeline σ) : Pipeline (Watched σ) :=
  { pipeline with writer := pipeline.writer.watched }

/-- What a course comes to, without the notes. -/
def plainly {α : Type} (course : α × World (Watched σ)) : α × World σ := (course.1, course.2.plain)

variable (pipeline : Pipeline σ) (plan : Plan) (occasion : Occasion)

theorem write_plain (batch : Batch) (index : String) (world : World (Watched σ)) :
    plainly (pipeline.watched.write batch index world) =
      pipeline.write batch index world.plain := by
  have written := pipeline.writer.write_plain pipeline.options batch index world.sink
  have outcome := congrArg Prod.fst written
  have state := congrArg (fun course => World.mk world.asked course.2) written
  exact Prod.ext outcome state

theorem inquire_plain {α : Type} (inquiry : Assembly.Inquiry α) (world : World (Watched σ)) :
    plainly (pipeline.watched.inquire inquiry world) = pipeline.inquire inquiry world.plain :=
  rfl

theorem familyTurn_plain (family : Family) (world : World (Watched σ)) :
    plainly (pipeline.watched.services.familyTurn plan family occasion world) =
      pipeline.services.familyTurn plan family occasion world.plain := by
  rw [services_familyTurn_eq, services_familyTurn_eq, ← inquire_plain]
  rcases pipeline.watched.inquire (Assembly.assemble plan family occasion) world with
    ⟨failure | batch, after⟩
  · rfl
  · simp only [plainly]
    rw [← write_plain]
    rcases pipeline.watched.write batch (family.index occasion.date) after with
      ⟨failure | report, final⟩ <;> rfl

theorem familyTurns_plain (families : List Family) (world : World (Watched σ)) :
    plainly (pipeline.watched.services.familyTurns plan occasion families world) =
      pipeline.services.familyTurns plan occasion families world.plain := by
  induction families generalizing world with
  | nil => rfl
  | cons family rest inductionHypothesis =>
    rw [familyTurns_cons, familyTurns_cons, ← familyTurn_plain]
    rcases pipeline.watched.services.familyTurn plan family occasion world with
      ⟨failure | report, between⟩
    · rfl
    · simp only [plainly]
      rw [← inductionHypothesis]
      rcases pipeline.watched.services.familyTurns plan occasion rest between with
        ⟨failure | reports, after⟩ <;> rfl

theorem run_plain (families : List Family) (world : World (Watched σ)) :
    plainly (pipeline.watched.run families occasion world) =
      pipeline.run families occasion world.plain := by
  have discovery : plainly (pipeline.watched.repositories occasion world) =
      pipeline.repositories occasion world.plain := by
    unfold repositories
    by_cases none : occasion.repositories.isEmpty
    · rw [if_pos none, if_pos none]
      exact inquire_plain _ _ _
    · rw [if_neg none, if_neg none]
      rfl
  rw [run_eq_turns, run_eq_turns, ← discovery]
  rcases pipeline.watched.repositories occasion world with ⟨failure | repositories, after⟩
  · rfl
  · exact familyTurns_plain _ _ _ _ _

/-! ### Failed runs -/

/-- It is a family's turn: the families before it have had theirs, and none of them failed. -/
structure Comes (pipeline : Pipeline σ) (families : List Family) (occasion : Occasion)
    (before : World σ) (position : Nat) (family : Family) (own : Occasion) (between : World σ) :
    Prop where
  named : families[position]? = some family
  found : ∃ repositories started,
    pipeline.repositories occasion before = (.ok repositories, started) ∧
      own = { occasion with repositories := repositories }
  earlier : ∃ reports,
    pipeline.run (families.take position) occasion before = (.ok reports, between)

/-- How a run fails, and the world that it leaves. -/
inductive Stops (pipeline : Pipeline (Watched σ)) (families : List Family) (occasion : Occasion)
    (before : World (Watched σ)) : Failure → World (Watched σ) → Prop where
  /-- Without repositories nothing is written. -/
  | discovering {failure : Failure} {after : World (Watched σ)}
      (discovery : pipeline.repositories occasion before = (.error failure, after))
      (untouched : after.sink = before.sink) :
      Stops pipeline families occasion before failure after
  /-- A family that cannot be assembled adds nothing to what the families before it have written. -/
  | assembling {position : Nat} {family : Family} {own : Occasion} {failure : Failure}
      {between after : World (Watched σ)}
      (comes : pipeline.Comes families occasion before position family own between)
      (assembly : pipeline.inquire (Assembly.assemble pipeline.procedure.plan family own) between =
        (.error failure, after))
      (untouched : after.sink = between.sink)
      (laterIdle : pipeline.run (families.take (position + 1)) occasion before =
        (.error (failure.within (.assembling family.name)), after)) :
      Stops pipeline families occasion before (failure.within (.assembling family.name)) after
  /-- A family that cannot be written adds what its own write does, with no bulk call if its index
  could not be ensured. -/
  | writing {position : Nat} {family : Family} {own : Occasion} {failure : Failure} {batch : Batch}
      {between assembled after : World (Watched σ)}
      (comes : pipeline.Comes families occasion before position family own between)
      (assembly : pipeline.inquire (Assembly.assemble pipeline.procedure.plan family own) between =
        (.ok batch, assembled))
      (untouched : assembled.sink = between.sink)
      (write : pipeline.write batch (family.index own.date) assembled = (.error failure, after))
      (noSearch : after.asked = assembled.asked)
      (contacts : ∃ creates chunks,
        after.sink.contacts = between.sink.contacts ++
            Contact.ofWrite (family.index own.date) pipeline.writer.settings creates chunks ∧
          ((Index.ensure pipeline.writer.sink pipeline.writer.settings (family.index own.date)
              between.sink).1 ≠ .ok () → chunks = []))
      (laterIdle : pipeline.run (families.take (position + 1)) occasion before =
        (.error (failure.within (.writing family.name (family.index own.date))), after)) :
      Stops pipeline families occasion before
        (failure.within (.writing family.name (family.index own.date))) after

theorem stops_of_failed_turn
    {pipeline : Pipeline σ}
    {families : List Family}
    {occasion own : Occasion}
    {before between after : World (Watched σ)}
    {position : Nat}
    {family : Family}
    {failure : Failure}
    (comes : pipeline.watched.Comes families occasion before position family own between)
    (laterIdle : pipeline.watched.run (families.take (position + 1)) occasion before =
      (.error failure, after))
    (fails : pipeline.watched.services.familyTurn pipeline.procedure.plan family own between =
      (.error failure, after)) :
    pipeline.watched.Stops families occasion before failure after := by
  rw [services_familyTurn_eq] at fails
  split at fails
  · rename_i cause assembled assembly
    cases fails
    exact .assembling comes assembly (congrArg (·.2.sink) assembly).symm laterIdle
  · rename_i batch assembled assembly
    have untouched : assembled.sink = between.sink := (congrArg (·.2.sink) assembly).symm
    split at fails
    · rename_i cause final write
      cases fails
      by_cases nothing : batch.documents = []
      · rw [Pipeline.write, watched, Bulk.Writer.write_of_empty _ _ _ _ nothing] at write
        cases write
      · refine .writing comes assembly untouched write (congrArg (·.2.asked) write).symm ?_
          laterIdle
        obtain ⟨creates, chunks, contacts, none⟩ := pipeline.writer.contacts_of_write
          pipeline.options (family.index own.date) assembled.sink nothing
        refine ⟨creates, chunks, ?_, ?_⟩
        · rw [← untouched]
          exact (congrArg (·.2.sink.contacts) write).symm.trans contacts
        · rw [← untouched]
          exact none
    · cases fails

/-- **A failed run leaves a prefix behind.**  If a run fails at a family, its sink has seen what the
run over the families before it shows to a sink, and then what belongs to that family's own write:
nothing if the family could not be assembled, and no bulk call if its index could not be ensured.  A
run that fails to find its repositories never touches the sink.  A run that succeeds has one report
for each family, in order, and a batch without documents is written without any contact. -/
theorem failed_run_leaves_prefix
    (pipeline : Pipeline σ)
    (families : List Family)
    (occasion : Occasion)
    (world : World σ) :
    plainly (pipeline.watched.run families occasion world.watched) =
        pipeline.run families occasion world ∧
      (match pipeline.watched.run families occasion world.watched with
        | (.error failure, after) =>
          pipeline.watched.Stops families occasion world.watched failure after
        | (.ok reports, _) => reports.map FamilyReport.family = families) ∧
      (∀ index between, pipeline.watched.write Ledger.empty index between =
        (.ok ⟨index, 0, 0, ⟨0, 0, 0, 0⟩, 0⟩, between)) := by
  refine ⟨run_plain _ _ _ _, ?_, fun _ _ => rfl⟩
  cases discovery : pipeline.watched.repositories occasion world.watched with
  | mk outcome started =>
    cases outcome with
    | error failure =>
      rw [run_eq_turns, discovery]
      refine .discovering discovery ?_
      have untouched : (pipeline.watched.repositories occasion world.watched).2.sink =
          world.watched.sink := by
        unfold repositories
        split <;> rfl
      rw [← untouched, discovery]
    | ok repositories =>
      -- Whichever families are asked for, the run starts from what the discovery left.
      have course (families : List Family) := pipeline.watched.run_eq_turns occasion families
        world.watched
      simp only [discovery] at course
      rw [course]
      cases turns : pipeline.watched.services.familyTurns pipeline.watched.procedure.plan
          { occasion with repositories := repositories } families started with
      | mk outcome after =>
        cases outcome with
        | ok reports => exact families_of_familyTurns turns
        | error failure =>
          obtain ⟨position, family, reports, between, named, earlier, fails⟩ :=
            exists_failed_turn turns
          apply stops_of_failed_turn
          · exact ⟨named, ⟨repositories, started, discovery, rfl⟩, reports,
              (course _).trans earlier⟩
          · exact (course _).trans (familyTurns_take_succ named earlier fails)
          · exact fails

/-- A cluster that gives the same answer six times, as often as the check of a release asks it, and
then none. -/
def sixAnswers : Executor := fun asked _ =>
  if asked.length < 6 then
    .ok ⟨some 3, [], Ledger.ofList [("issue_assignees", .object [("buckets", .array [])])]⟩
  else .error (.ofCause .storeUnreachable)

/-- One release is checked on behalf of a store in memory. -/
def cutShort : Pipeline Memory :=
  ⟨sixAnswers, ⟨Sink.memory, .standard, 1⟩, ⟨1, 1, 5⟩, ⟨⟨true, [⟨"3.0.0", "open"⟩], 1⟩, 10⟩⟩

/-- Nothing has been asked, and nothing stored. -/
def nothingYet : World Memory := ⟨[], .empty 1 [] false 0⟩

/-- What the check of the release finds. -/
def releaseCheck (occasion : Occasion) : Document :=
  ⟨(occasion.filing .releases).origin "alpha",
    .release ⟨"3.0.0", "open"⟩ ⟨3, 3, 3, 3, 3, ⟨none, []⟩⟩⟩

theorem inquire_cutShort_releases
    {occasion : Occasion}
    (isAlpha : occasion.repositories = ["alpha"]) :
    ∃ asked, asked.length = 6 ∧
      cutShort.watched.inquire
          (Assembly.assemble cutShort.watched.procedure.plan .releases occasion)
          nothingYet.watched =
        (.ok (Batch.ofDocuments [releaseCheck occasion]), ⟨asked, nothingYet.watched.sink⟩) := by
  obtain ⟨_, date, runAt⟩ := occasion
  cases isAlpha
  rw [← Assembly.batchOfChecks_singleton ⟨0, 0, releaseCheck _⟩]
  exact ⟨_, rfl, rfl⟩

/-- The batch of a single document is cut into one part. -/
theorem partition_of_single (document : Document) :
    Bulk.partition (Batch.ofDocuments [document]).documents.length 1 1 = [⟨0, 1⟩] := by
  have length : (Batch.ofDocuments [document]).documents.length = 1 := rfl
  rw [length]
  rfl

theorem write_cutShort (document : Document) (index : String) (asked : List Request) :
    ∃ report sink,
      cutShort.watched.write (Batch.ofDocuments [document]) index
          ⟨asked, nothingYet.watched.sink⟩ = (.ok report, ⟨asked, sink⟩) ∧
        sink.contacts = Contact.ofWrite index .standard true [[document.entry]] := by
  simp only [cutShort, watched, write, Bulk.Writer.write, Bulk.Writer.delivery, partition_of_single]
  exact ⟨_, _, rfl, rfl⟩

theorem inquire_cutShort_labels
    {asked : List Request}
    (sixAsked : asked.length = 6)
    (occasion : Occasion)
    (sink : Watched Memory) :
    ∃ asked', cutShort.watched.inquire
        (Assembly.assemble cutShort.watched.procedure.plan .labels occasion) ⟨asked, sink⟩ =
      (.error ⟨[.lookingUp "Issue Labels"], .storeUnreachable⟩, ⟨asked', sink⟩) := by
  obtain ⟨request, resume, isAsk, fails⟩ : ∃ request resume,
      Assembly.assemble cutShort.watched.procedure.plan .labels occasion = .ask request resume ∧
        resume (.error (.ofCause .storeUnreachable)) =
          .failed ⟨[.lookingUp "Issue Labels"], .storeUnreachable⟩ :=
    ⟨_, _, rfl, rfl⟩
  have unanswered : cutShort.watched.executor asked request =
      .error (.ofCause .storeUnreachable) :=
    if_neg (by rw [sixAsked]; decide)
  refine ⟨asked ++ [request], ?_⟩
  rw [inquire, isAsk, Assembly.Inquiry.run, unanswered, fails]
  rfl

/-- The check of a release is written, and stays so when no answer comes to what is asked for the
labels. -/
theorem failed_run_leaves_release_check :
    let occasion : Occasion := ⟨["alpha"], ⟨2024, 6, 1, by decide⟩, ⟨1717200000, 0⟩⟩
    let failure : Failure :=
      ⟨[.assembling "label-metrics", .lookingUp "Issue Labels"], .storeUnreachable⟩
    ∃ after,
      cutShort.run [.releases, .labels] occasion nothingYet = (.error failure, after.plain) ∧
      cutShort.watched.Stops [.releases, .labels] occasion nothingYet.watched failure after ∧
      after.sink.contacts = Contact.ofWrite (Family.releases.index occasion.date) .standard true
        [[(releaseCheck occasion).entry]] := by
  intro occasion failure
  obtain ⟨asked, sixAsked, checked⟩ := @inquire_cutShort_releases occasion rfl
  obtain ⟨report, sink, written, contacts⟩ :=
    write_cutShort (releaseCheck occasion) (Family.releases.index occasion.date) asked
  obtain ⟨asked', notMeasured⟩ := inquire_cutShort_labels sixAsked occasion sink
  have fails : cutShort.watched.run [.releases, .labels] occasion nothingYet.watched =
      (.error failure, ⟨asked', sink⟩) := by
    have listed : ¬occasion.repositories.isEmpty = true := by decide
    rw [run_eq, if_neg listed, familyTurns_cons, services_familyTurn_eq, checked]
    simp only [written]
    rw [familyTurns_cons, services_familyTurn_eq, notMeasured]
    rfl
  obtain ⟨plain, stops, -⟩ :=
    failed_run_leaves_prefix cutShort [.releases, .labels] occasion nothingYet
  rw [fails] at plain stops
  exact ⟨⟨asked', sink⟩, plain.symm, stops, contacts⟩

end Pipeline

end RepoVitals

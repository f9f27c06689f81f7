import RepoVitals.Sink.Memory
/-!
The rehearsed sink: a sink that follows a script.

Owns:
- the script: fixed answers about existence and creation, and one step for each bulk call;
- the sink, which notes a call when it starts and takes the next step for it.

After the last step every call stores all its documents.
-/

namespace RepoVitals.Sink

open Bulk (Verdict)
open Index (Settings)

/-- What one bulk call does, after its delay in nanoseconds: panic, or else fail for a reason, or
else give these verdicts, or else store everything. -/
structure Step where
  delay : Nat
  panics : Bool
  failure : Option String
  verdicts : Option (List Verdict)
  deriving DecidableEq

/-- The step of a call that needs no step. -/
def Step.plain : Step := ⟨0, false, none, none⟩

/-- How a call with these documents ends. -/
def Step.landing (step : Step) (documents : List Entry) : Landing :=
  if step.panics then .panicked
  else
    match step.failure, step.verdicts with
    | some reason, _ => .answered (.error (.ofCause (.stated reason)))
    | none, some verdicts => .answered (.ok verdicts)
    | none, none => .answered (.ok (documents.map (fun document => .stored document.id)))

/-- The script, with what has been seen so far. -/
structure Rehearsal where
  existence : Except String Bool
  creation : Except String Creation
  steps : List Step
  created : List (String × Settings)
  calls : List Call

/-- A stated reason as a failure. -/
def statedOutcome {α : Type} : Except String α → Outcome α
  | .ok value => .ok value
  | .error reason => .error (.ofCause (.stated reason))

/-- Creations that the script lets happen are noted. -/
def Rehearsal.create (rehearsal : Rehearsal) (index : String) (settings : Settings) :
    Outcome Creation × Rehearsal :=
  match rehearsal.creation with
  | .ok .created =>
    (.ok .created, { rehearsal with created := rehearsal.created ++ [(index, settings)] })
  | other => (statedOutcome other, rehearsal)

/-- The rehearsed sink. -/
def rehearsed : Sink Rehearsal where
  indexExists rehearsal _ := (statedOutcome rehearsal.existence, rehearsal)
  createIndex := Rehearsal.create
  takeOff rehearsal index documents :=
    let step := rehearsal.steps.head?.getD .plain
    (⟨step.delay, some (step.landing documents)⟩,
      { rehearsal with
        steps := rehearsal.steps.drop 1
        calls := rehearsal.calls ++ [⟨index, documents.map Entry.id⟩] })
  land rehearsal _ documents flight :=
    (flight.landing.getD (Step.plain.landing documents), rehearsal)

end RepoVitals.Sink

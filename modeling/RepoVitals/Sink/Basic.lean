import RepoVitals.Batch
import RepoVitals.Bulk.Verdict
import RepoVitals.Index.Settings
/-!
Sinks: where documents go to live.

Owns:
- what every sink can do: say whether an index exists, create one, and take a bulk call;
- the two ends of a bulk call, since time may pass between them.

A sink with state `σ` is a record of functions on that state.  A bulk call fails as a whole or gives
a verdict on each document; an index that somebody else has just created is no failure.
-/

namespace RepoVitals.Sink

open Bulk (Verdict)
open Index (Settings)

/-- How a creation ended. -/
inductive Creation where
  | created
  | alreadyExists
  deriving DecidableEq

/-- How a bulk call ended: with an outcome, or by a panic inside the sink. -/
inductive Landing where
  | answered (outcome : Outcome (List Verdict))
  | panicked

/-- A bulk call that is on its way: how long it takes, in nanoseconds, and how it ends, if that was
settled when it started. -/
structure Flight where
  delay : Nat
  landing : Option Landing

end Sink

/-- A sink. -/
structure Sink (σ : Type) where
  indexExists : σ → String → Outcome Bool × σ
  createIndex : σ → String → Index.Settings → Outcome Sink.Creation × σ
  takeOff : σ → String → List Entry → Sink.Flight × σ
  land : σ → String → List Entry → Sink.Flight → Sink.Landing × σ

end RepoVitals

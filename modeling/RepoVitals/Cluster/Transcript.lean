import RepoVitals.Cluster.Client
import RepoVitals.Errand
/-!
Transcripts: what has been said between a sink and its cluster.

Owns:
- the network that answers from a transcript and notes every request;
- the pipeline of a configuration in any network, and in the one where nothing arrives;
- the request that a write has to send next, given the answers that it has got so far.

A write depends on nothing but the answers that it gets, in order.  So it can be started over with
every new answer, and it goes the same way up to the first request that has no answer yet.
-/

namespace RepoVitals.Cluster

open Assembly (Executor)
open Bulk (WriteReport Writer)
open Http (Answer)

/-! ### Pipelines -/

/-- The writer of a configuration in a network. -/
def writerOf {σ : Type} (configuration : Configuration) (network : CallNetwork σ) : Writer σ :=
  ⟨sink configuration.store network, configuration.index, configuration.runtime.poolSize⟩

/-- The network in which nothing arrives. -/
def silence : CallNetwork Unit := fun state _ => (none, state)

/-- The pipeline of a configuration in networks for its searches and its writes. -/
def pipelineOf {σ : Type} (configuration : Configuration) (searches : SearchNetwork)
    (calls : CallNetwork σ) : Pipeline σ where
  executor := executor configuration.store searches
  writer := writerOf configuration calls
  options := configuration.runtime.writeOptions
  procedure := configuration.procedure

/-! ### Transcripts -/

/-- The answers that are known, in order, and the requests that have been sent. -/
structure Transcript where
  answers : List (Option Answer)
  sent : List Http.Request

namespace Transcript

/-- Answer the next request from the transcript, or not at all. -/
def network : CallNetwork Transcript :=
  fun transcript request =>
    ((transcript.answers[transcript.sent.length]?).join,
      { transcript with sent := transcript.sent ++ [request] })

/-- The first request that was sent and has no known answer. -/
def next? (transcript : Transcript) : Option Http.Request :=
  transcript.sent[transcript.answers.length]?

/-- What a write comes to with the answers known so far: its outcome, or the request that has to be
sent first. -/
def write (configuration : Configuration) (batch : Batch) (index : String)
    (answers : List (Option Answer)) : Except Http.Request (Outcome WriteReport) :=
  let (written, after) := (writerOf configuration network).write
    configuration.runtime.writeOptions batch index ⟨answers, []⟩
  match after.next? with
  | some request => .error request
  | none => .ok written

end Transcript

end RepoVitals.Cluster

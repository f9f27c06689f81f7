import RepoVitals.Sink.Basic
/-!
Presence: making sure that an index exists before anything is written into it.

Owns the two steps of a client (ask, then create if the answer is no) and their composition.  The
steps are apart because other clients may act between them.
-/

namespace RepoVitals.Index

/-- How far a client has come. -/
inductive Stage where
  | asking
  | creating
  | settled (outcome : Outcome Unit)

/-- Do the next thing for an index. -/
def Stage.step {σ : Type} (sink : Sink σ) (settings : Settings) (index : String) (state : σ) :
    Stage → Stage × σ
  | .asking =>
    match sink.indexExists state index with
    | (.ok true, after) => (.settled (.ok ()), after)
    | (.ok false, after) => (.creating, after)
    | (.error failure, after) => (.settled (.error (failure.within (.askingForIndex index))), after)
  | .creating =>
    match sink.createIndex state index settings with
    | (.ok _, after) => (.settled (.ok ()), after)
    | (.error failure, after) => (.settled (.error (failure.within (.creatingIndex index))), after)
  | .settled outcome => (.settled outcome, state)

/-- Do everything for an index: both steps. -/
def ensure {σ : Type} (sink : Sink σ) (settings : Settings) (index : String) (state : σ) :
    Outcome Unit × σ :=
  let (stage, asked) := Stage.asking.step sink settings index state
  match stage.step sink settings index asked with
  | (.settled outcome, after) => (outcome, after)
  | (_, after) => (.ok (), after)

end RepoVitals.Index

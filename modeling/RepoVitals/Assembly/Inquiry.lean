import RepoVitals.Search.Response
import RepoVitals.Search.Request
/-!
Inquiries: work that depends on the answers to searches.

Owns:
- an inquiry as a tree: it is done, or it has failed, or it asks one search and goes on with the
  outcome;
- composition of inquiries;
- running an inquiry against an executor, with a record of the searches that were asked;
- performing an inquiry with effects.

An inquiry says nothing about who answers it.  An executor may let its answer depend on the searches
before; one that does not is called steady.
-/

namespace RepoVitals.Assembly

open Search (Request Response)

/-- Work that may have to ask searches. -/
inductive Inquiry (α : Type) where
  | done (result : α)
  | failed (failure : Failure)
  | ask (request : Request) (resume : Outcome Response → Inquiry α)

namespace Inquiry

variable {α β : Type}

/-- Go on with the result of an inquiry. -/
protected def bind (inquiry : Inquiry α) (next : α → Inquiry β) : Inquiry β :=
  match inquiry with
  | .done result => next result
  | .failed failure => .failed failure
  | .ask request resume => .ask request (fun outcome => (resume outcome).bind next)

instance : Monad Inquiry where
  pure := .done
  bind := Inquiry.bind

/-- The outcome of work that asks nothing. -/
def ofOutcome : Outcome α → Inquiry α
  | .ok result => .done result
  | .error failure => .failed failure

instance : MonadLift Outcome Inquiry := ⟨ofOutcome⟩

/-- Ask one search. -/
def search (request : Request) : Inquiry Response :=
  .ask request ofOutcome

/-- Say of a failure what was being done. -/
def within (inquiry : Inquiry α) (circumstance : Circumstance) : Inquiry α :=
  match inquiry with
  | .done result => .done result
  | .failed failure => .failed (failure.within circumstance)
  | .ask request resume => .ask request (fun outcome => (resume outcome).within circumstance)

/-- One inquiry after the other, up to the first failure. -/
def forEach (items : List β) (inquiryOf : β → Inquiry α) : Inquiry (List α) :=
  match items with
  | [] => .done []
  | item :: rest => do
    let result ← inquiryOf item
    let results ← forEach rest inquiryOf
    return result :: results

end Inquiry

/-- Answers a search, given the searches before it, oldest first. -/
abbrev Executor := List Request → Request → Outcome Response

/-- The executor that always gives the same answer to the same search. -/
def Executor.steady (answer : Request → Outcome Response) : Executor :=
  fun _ request => answer request

namespace Inquiry

variable {α : Type}

/-- Run an inquiry after the searches in `asked`: all searches asked by then, and the outcome. -/
def run (executor : Executor) (asked : List Request) : Inquiry α → List Request × Outcome α
  | .done result => (asked, .ok result)
  | .failed failure => (asked, .error failure)
  | .ask request resume =>
    (resume (executor asked request)).run executor (asked ++ [request])

/-- Perform an inquiry where searching has effects. -/
def perform {m : Type → Type} [Monad m] (search : Request → m (Outcome Response)) :
    Inquiry α → m (Outcome α)
  | .done result => return .ok result
  | .failed failure => return .error failure
  | .ask request resume => do (resume (← search request)).perform search

end Inquiry

end RepoVitals.Assembly

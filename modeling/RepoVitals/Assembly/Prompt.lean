import RepoVitals.Assembly.Fanout
/-!
Assemblies against a cluster that answers at once.

Owns:
- volleys of which only so many hold a place at a time, and of which the one that has held its place
  longest is worked on;
- the assembly of an assignment in this way.

No answer has to be waited for, so a volley that is worked on comes to its end before the next one
begins: its searches are sent one after the other, and after a failure no further one is.
-/

namespace RepoVitals.Assembly

open Catalogue (Family)

variable {α : Type}

/-- Fill the free places with volleys that wait, work on the first one, and go on. -/
def Volley.inquirePromptly (limit : Nat) (waiting placed : List (Volley α)) : Inquiry (List α) :=
  let free := limit - placed.length
  match _ : placed ++ waiting.take free with
  | [] => .done []
  | volley :: others => do
    let result ← volley.inquiry
    let results ← inquirePromptly limit (waiting.drop free) others
    return result :: results
termination_by placed.length + waiting.length
decreasing_by
  rename_i filled
  have lengths := congrArg List.length filled
  simp only [List.length_append, List.length_take, List.length_cons] at lengths
  simp only [List.length_drop]
  omega

/-- The assembly of an assignment where no answer has to be waited for.  At least one pair has a
place. -/
def Assignment.inquirePromptly (plan : Plan) (occasion : Occasion) : Assignment → Inquiry Batch
  | .measurements family rows => do
    let prepared ← prepare plan.useLookups occasion.repositories rows
    let measured ← Volley.inquirePromptly (max 1 plan.concurrency)
      (measurementsOf occasion.repositories prepared) []
    return batchOfFindings (occasion.filing family) occasion.repositories
      (rows.map Catalogue.Row.name)
      (knownOf occasion.repositories prepared ++ measured)
  | .checks => do
    let checked ← Volley.inquirePromptly (max 1 plan.concurrency)
      (checksOf (occasion.filing .releases) occasion.repositories plan.releases) []
    return batchOfChecks checked

end RepoVitals.Assembly

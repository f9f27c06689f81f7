import RepoVitals.Assembly.Inquiry
import RepoVitals.Text.Occurrence
/-!
Scripted answers: a stand-in for the cluster that answers searches by rules.

Owns the rules and the executor that tries them in order.  A rule can ask for an index and for texts
that occur in the body of the search.
-/

namespace RepoVitals.Assembly

open Json (Value)
open Search (Request Response)

/-- What a rule answers. -/
inductive Reply where
  /-- A failure for a reason given in words. -/
  | fail (reason : String)
  /-- A status other than success. -/
  | refuse (status : Nat) (body : String)
  /-- A value that has to be an answer to a search. -/
  | answer (value : Value)

/-- A rule: which searches it fits, and its reply. -/
structure Rule where
  index : Option String
  parts : List String
  reply : Reply

namespace Rule

/-- The rule fits a search. -/
def fits (rule : Rule) (request : Request) : Bool :=
  (rule.index.all (· = request.index)) &&
    rule.parts.all (fun part => Text.isPartOf part request.body.toText)

/-- The outcome of a search that the rule fits. -/
def outcome (rule : Rule) (request : Request) : Outcome Response :=
  match rule.reply with
  | .fail reason => .error (.ofCause (.stated reason))
  | .refuse status body => .error (.ofCause (.queryStatus request.index status body))
  | .answer value =>
    match Response.ofValue? value with
    | some response => .ok response
    | none => .error (.ofCause .undecodable)

end Rule

/-- The outcome of a search by the first rule that fits. -/
def answerBy (rules : List Rule) (request : Request) : Outcome Response :=
  match rules.find? (fun rule => rule.fits request) with
  | some rule => rule.outcome request
  | none => .error (.ofCause (.stated "no rule"))

/-- The executor that follows the rules. -/
def scripted (rules : List Rule) : Executor :=
  .steady (answerBy rules)

end RepoVitals.Assembly

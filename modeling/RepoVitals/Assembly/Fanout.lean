import RepoVitals.Assembly.Batches
/-!
Fan-out: volleys under way at the same time, up to a limit.

Owns:
- the state of a fan-out, with the answers that have come so far;
- its events: a volley is sent, and a search is answered;
- its course where the cluster always gives the same answer to the same search;
- what a fan-out comes to, its results standing in the order in which they were completed;
- the fan-outs of the pairs with rows and of the pairs with releases;
- assignments, which are assembled one pair after the other or in turns.

A volley is sent as a whole, so the limit counts volleys and not searches.  The first failure ends
everything: nothing more is sent, and no further answer is waited for.
-/

namespace RepoVitals.Assembly

open Catalogue (Family Release Row)
open Search (Request Response)

/-- A volley under way, with its position and an answer, or none yet, for each of its searches. -/
structure UnderWay (α : Type) where
  position : Nat
  volley : Volley α
  answers : List (Option Response)

/-- Volleys on their way to results; those in `waiting` have not been sent, and the first of them
has the position `sent`. -/
structure Fanout (α : Type) where
  limit : Nat
  sent : Nat
  waiting : List (Volley α)
  underWay : List (UnderWay α)
  completed : List α
  failure : Option Failure

/-- What can happen to a fan-out; volleys and their searches are given by their positions. -/
inductive FanoutEvent where
  | send
  | answer (volley search : Nat) (outcome : Outcome Response)

/-- What is left open when every search has one answer: whose turn it is. -/
inductive FanoutTurn where
  | send
  | hear (volley search : Nat)
  deriving DecidableEq

namespace Fanout

variable {α : Type}

/-- A fan-out that has sent nothing; at least one volley may be under way. -/
def new (limit : Nat) (volleys : List (Volley α)) : Fanout α :=
  ⟨max 1 limit, 0, volleys, [], [], none⟩

/-- The fan-out ended by a failure. -/
def fail (fanout : Fanout α) (failure : Failure) : Fanout α :=
  { fanout with waiting := [], underWay := [], failure := some failure }

/-- The fan-out with a volley under way, which is completed if nothing is missing. -/
def place (fanout : Fanout α) (volley : UnderWay α) : Fanout α :=
  match volley.volley.outcome? volley.answers with
  | none => { fanout with underWay := fanout.underWay ++ [volley] }
  | some (.ok result) => { fanout with completed := fanout.completed ++ [result] }
  | some (.error failure) => fanout.fail failure

/-- The fan-out without the volley at a position. -/
def withdraw (fanout : Fanout α) (position : Nat) : Fanout α :=
  { fanout with
    underWay := fanout.underWay.filter (fun volley => volley.position ≠ position) }

/-- The fan-out after an event, if the event is possible. -/
def step (fanout : Fanout α) : FanoutEvent → Option (Fanout α)
  | .send =>
    match fanout.waiting with
    | [] => none
    | volley :: rest =>
      if fanout.underWay.length < fanout.limit then
        some ({ fanout with waiting := rest, sent := fanout.sent + 1 }.place
          ⟨fanout.sent, volley, volley.searches.map (fun _ => none)⟩)
      else none
  | .answer position search outcome => do
    let found ← fanout.underWay.find? (fun volley => volley.position = position)
    match found.answers[search]?, outcome with
    | some none, .ok response =>
      some ((fanout.withdraw position).place
        { found with answers := found.answers.set search (some response) })
    | some none, .error failure =>
      some (fanout.fail (failure.within found.volley.circumstance))
    | _, _ => none

/-- The fan-out after a sequence of events. -/
def exec (fanout : Fanout α) : List FanoutEvent → Option (Fanout α)
  | [] => some fanout
  | event :: rest => (fanout.step event).bind (fun after => after.exec rest)

/-- The fan-out after a turn, if the turn is possible and `answer` says what each search brings. -/
def take (answer : Request → Outcome Response) (fanout : Fanout α) : FanoutTurn → Option (Fanout α)
  | .send => fanout.step .send
  | .hear position search => do
    let found ← fanout.underWay.find? (fun volley => volley.position = position)
    let request ← found.volley.searches[search]?
    fanout.step (.answer position search (answer request))

/-- The fan-out after a sequence of turns. -/
def follow (answer : Request → Outcome Response) (fanout : Fanout α) :
    List FanoutTurn → Option (Fanout α)
  | [] => some fanout
  | turn :: rest => (fanout.take answer turn).bind (fun after => after.follow answer rest)

/-- How many searches have been sent and not answered. -/
def searchesInFlight (fanout : Fanout α) : Nat :=
  (fanout.underWay.flatMap UnderWay.answers).countP Option.isNone

/-- What the fan-out has come to, once it is over. -/
def outcome? (fanout : Fanout α) : Option (Outcome (List α)) :=
  match fanout.failure with
  | some failure => some (.error failure)
  | none =>
    if fanout.waiting.isEmpty ∧ fanout.underWay.isEmpty then some (.ok fanout.completed) else none

end Fanout

/-! ### Turns -/

/-- Where turns lead: they are impossible, or something is left to do, or all is over. -/
inductive Standing (α : Type) where
  | impossible
  | pending
  | over (outcome : Outcome α)

/-- The same standing with another result. -/
def Standing.map {α β : Type} (change : α → β) : Standing α → Standing β
  | .impossible => .impossible
  | .pending => .pending
  | .over outcome => .over (Except.map change outcome)

/-- Where turns lead a fan-out. -/
def Fanout.standing {α : Type} (answer : Request → Outcome Response) (fanout : Fanout α)
    (turns : List FanoutTurn) : Standing (List α) :=
  match fanout.follow answer turns with
  | none => .impossible
  | some after =>
    match after.outcome? with
    | none => .pending
    | some outcome => .over outcome

/-! ### Assignments -/

/-- The fan-out of the pairs that no lookup has answered. -/
def Plan.measurements (plan : Plan) (repositories : List String) (rows : List PreparedRow) :
    Fanout (Placed Finding) :=
  .new plan.concurrency (measurementsOf repositories rows)

/-- The fan-out of the pairs with releases. -/
def Plan.checks (plan : Plan) (filing : Filing) (repositories : List String) :
    Fanout (Placed Document) :=
  .new plan.concurrency (checksOf filing repositories plan.releases)

/-- What is to be assembled: any rows, filed under a family, or the pairs with the releases. -/
inductive Assignment where
  | measurements (family : Family) (rows : List Row)
  | checks

/-- The assignment of a family. -/
def Assignment.ofFamily : Family → Assignment
  | .releases => .checks
  | family => .measurements family family.rows

namespace Assignment

/-- The assembly that works on one pair after the other. -/
def inquiry (plan : Plan) (occasion : Occasion) : Assignment → Inquiry Batch
  | .measurements family rows => assembleRows plan family rows occasion
  | .checks => assembleChecks plan occasion

/-- Where turns lead the assembly that works on several pairs at a time.  Lookups are asked before
the first turn. -/
def standing (answer : Request → Outcome Response) (plan : Plan) (occasion : Occasion)
    (turns : List FanoutTurn) : Assignment → Standing Batch
  | .measurements family rows =>
    match ((prepare plan.useLookups occasion.repositories rows).run (.steady answer) []).2 with
    | .error failure => if turns = [] then .over (.error failure) else .impossible
    | .ok prepared =>
      ((plan.measurements occasion.repositories prepared).standing answer turns).map
        (fun measured =>
          batchOfFindings (occasion.filing family) occasion.repositories (rows.map Row.name)
            (knownOf occasion.repositories prepared ++ measured))
  | .checks =>
    ((plan.checks (occasion.filing .releases) occasion.repositories).standing answer turns).map
      batchOfChecks

/-- A family is assembled as its assignment says. -/
theorem inquiry_ofFamily (plan : Plan) (family : Family) (occasion : Occasion) :
    (ofFamily family).inquiry plan occasion = assemble plan family occasion := by
  cases family <;> rfl

end Assignment

end RepoVitals.Assembly

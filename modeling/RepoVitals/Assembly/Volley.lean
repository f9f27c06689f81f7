import RepoVitals.Assembly.Inquiry
/-!
Volleys: searches that do not wait for each other, and what is made of their answers.

Owns:
- readings, which take a fixed number of answers one by one;
- volleys, with the circumstance that a failure is reported under;
- a volley as an inquiry, which asks one search after the other;
- the reading of a volley whose answers have come in any order.
-/

namespace RepoVitals.Assembly

open Search (Request Response)

variable {α β : Type}

/-- What is made of so many answers. -/
def Reading (α : Type) : Nat → Type
  | 0 => Outcome α
  | count + 1 => Response → Reading α count

namespace Reading

/-- The reading with its result changed. -/
def map (change : α → β) : (count : Nat) → Reading α count → Reading β count
  | 0, outcome => Except.map change outcome
  | count + 1, reading => fun answer => map change count (reading answer)

/-- What the reading comes to, once all answers are there. -/
def outcome? : (count : Nat) → Reading α count → List (Option Response) → Option (Outcome α)
  | 0, outcome, _ => some outcome
  | count + 1, reading, some answer :: rest => outcome? count (reading answer) rest
  | _ + 1, _, none :: _ => none
  | _ + 1, _, [] => none

end Reading

/-- Searches, and what is made of their answers. -/
structure Volley (α : Type) where
  searches : List Request
  reading : Reading α searches.length
  circumstance : Circumstance

/-- Ask searches one after the other, up to the first failure, and read the answers. -/
def Inquiry.ofSearches : (searches : List Request) → Reading α searches.length → Inquiry α
  | [], outcome => .ofOutcome outcome
  | search :: rest, reading => do ofSearches rest (reading (← Inquiry.search search))

namespace Volley

/-- The volley with its result changed. -/
def map (change : α → β) (volley : Volley α) : Volley β :=
  { volley with reading := volley.reading.map change }

/-- The volley as an inquiry. -/
def inquiry (volley : Volley α) : Inquiry α :=
  (Inquiry.ofSearches volley.searches volley.reading).within volley.circumstance

/-- What the volley comes to, once all its searches are answered. -/
def outcome? (volley : Volley α) (answers : List (Option Response)) : Option (Outcome α) :=
  (volley.reading.outcome? _ answers).map
    (Except.mapError (fun failure => failure.within volley.circumstance))

/-- One volley after the other, up to the first failure. -/
def inquireAll (volleys : List (Volley α)) : Inquiry (List α) :=
  Inquiry.forEach volleys inquiry

end Volley

end RepoVitals.Assembly

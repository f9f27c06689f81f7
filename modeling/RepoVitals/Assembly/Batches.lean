import RepoVitals.Assembly.Draft
/-!
Assembly: from repositories and a family to one batch of documents.

Owns:
- the pairs of repositories with rows or releases, and their volleys;
- the batches that are made of the results, in whatever order these came;
- the assembly of a family, and the discovery of repositories.

A failed search ends the assembly, and so does an answer that cannot be read.  Here one
pair is worked on after the other.
-/

namespace RepoVitals.Assembly

open Calendar (Date Moment)
open Catalogue (Family Release Row)
open Search (Request)

/-! ### Pairs -/

/-- A pair of a repository and a row or release, with their positions. -/
structure Task (α : Type) where
  repositoryIndex : Nat
  repository : String
  subjectIndex : Nat
  subject : α

/-- All pairs, repository by repository. -/
def tasksOf {α : Type} (repositories : List String) (subjects : List α) : List (Task α) :=
  repositories.zipIdx.flatMap (fun repository =>
    subjects.zipIdx.map (fun subject => ⟨repository.2, repository.1, subject.2, subject.1⟩))

namespace Task

/-- A result of the pair. -/
def placed {α β : Type} (task : Task α) (result : β) : Placed β :=
  ⟨task.repositoryIndex, task.subjectIndex, result⟩

/-- What a lookup has found for the pair already. -/
def known? (task : Task PreparedRow) : Option (Placed Finding) :=
  (task.subject.known? task.repository).map task.placed

/-- Measure a pair that no lookup has answered. -/
def measurement (task : Task PreparedRow) : Volley (Placed Finding) :=
  (findingVolley task.subject.row task.repository).map task.placed

/-- Check a pair. -/
def check (filing : Filing) (task : Task Release) : Volley (Placed Document) :=
  (readinessVolley task.subject task.repository).map (fun readiness =>
    task.placed ⟨filing.origin task.repository, .release task.subject readiness⟩)

end Task

/-- What lookups have found. -/
def knownOf (repositories : List String) (rows : List PreparedRow) : List (Placed Finding) :=
  (tasksOf repositories rows).filterMap Task.known?

/-- The volleys of the pairs that no lookup has answered. -/
def measurementsOf (repositories : List String) (rows : List PreparedRow) :
    List (Volley (Placed Finding)) :=
  ((tasksOf repositories rows).filter (fun task => task.known?.isNone)).map Task.measurement

/-- The volleys of the pairs with releases. -/
def checksOf (filing : Filing) (repositories : List String) (releases : List Release) :
    List (Volley (Placed Document)) :=
  (tasksOf repositories releases).map (Task.check filing)

/-! ### Batches -/

/-- The batch of findings that came in any order. -/
def batchOfFindings (filing : Filing) (repositories rowNames : List String)
    (findings : List (Placed Finding)) : Batch :=
  Batch.ofDocuments (documentsOf filing repositories rowNames (inOrder findings))

/-- The batch of release documents that came in any order. -/
def batchOfChecks (checks : List (Placed Document)) : Batch :=
  Batch.ofDocuments ((inOrder checks).map Placed.result)

/-! ### Families -/

/-- What every assembly is given. -/
structure Occasion where
  repositories : List String
  date : Date
  runAt : Moment

/-- How an assembly goes about it: with lookups or without, with which releases, and how many pairs
it works on at a time. -/
structure Plan where
  useLookups : Bool
  releases : List Release
  concurrency : Nat

/-- How documents of a family are filed on an occasion. -/
def Occasion.filing (occasion : Occasion) (family : Family) : Filing :=
  ⟨family, family.documentBucket occasion.date, occasion.runAt.text⟩

/-- The batch of any rows, filed under a family. -/
def assembleRows (plan : Plan) (family : Family) (rows : List Row) (occasion : Occasion) :
    Inquiry Batch := do
  let prepared ← prepare plan.useLookups occasion.repositories rows
  let measured ← Volley.inquireAll (measurementsOf occasion.repositories prepared)
  return batchOfFindings (occasion.filing family) occasion.repositories (rows.map Row.name)
    (knownOf occasion.repositories prepared ++ measured)

/-- The batch of the release family. -/
def assembleChecks (plan : Plan) (occasion : Occasion) : Inquiry Batch := do
  let checked ← Volley.inquireAll
    (checksOf (occasion.filing .releases) occasion.repositories plan.releases)
  return batchOfChecks checked

/-- The batch of a family. -/
def assemble (plan : Plan) (family : Family) (occasion : Occasion) : Inquiry Batch :=
  match family with
  | .releases => assembleChecks plan occasion
  | _ => assembleRows plan family family.rows occasion

/-- The repositories that the cluster knows, in ascending order; the `limit` largest are asked
for. -/
def discover (limit : Nat) : Inquiry (List String) := do
  let answer ← (Inquiry.search ((Request.count Catalogue.Holding.repositories .all).aggregating
    Catalogue.repositoriesName (.terms Catalogue.Field.repository limit))).within
      .listingRepositories
  return (← answer.terms Catalogue.repositoriesName).keys

end RepoVitals.Assembly

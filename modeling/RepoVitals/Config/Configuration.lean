import RepoVitals.Bulk.Write
import RepoVitals.Catalogue.Release
import RepoVitals.Index.Settings
/-!
The configuration of a run.

Owns the configuration in its four parts, with the defaults of everything but the address of the
cluster.
-/

namespace RepoVitals.Config

open Catalogue (Family Release)

/-- Where the cluster is and how it is spoken to.  Times are in seconds. -/
structure Store where
  url : String
  username : Option String
  password : Option String
  apiKey : Option String
  connectTimeout : Nat
  requestTimeout : Nat
  compressRequests : Bool
  deriving DecidableEq

/-- The cluster at an address, spoken to plainly. -/
def Store.at (url : String) : Store := ⟨url, none, none, none, 10, 30, false⟩

/-- How hard a run leans on the cluster. -/
structure Runtime where
  poolSize : Nat
  parallelism : Nat
  batchSize : Nat
  /-- How long a whole write may take, in seconds. -/
  timeout : Nat
  queryConcurrency : Nat
  showProgress : Bool
  deriving DecidableEq

/-- How hard a run leans on the cluster unless it is told otherwise. -/
def Runtime.standard : Runtime := ⟨8, 8, 200, 600, 4, true⟩

/-- The options of the writes of a run. -/
def Runtime.writeOptions (runtime : Runtime) : Bulk.WriteOptions :=
  ⟨runtime.parallelism, runtime.batchSize, runtime.timeout * Text.nanosecondsPerSecond⟩

/-- What is measured.  No repositories means all that the cluster knows, up to a limit. -/
structure Scope where
  families : List Family
  repositories : List String
  discoveryLimit : Nat
  releases : List Release
  deriving DecidableEq

/-- What is measured unless a run is told otherwise. -/
def Scope.standard : Scope := ⟨Family.all, [], 500, Catalogue.watchlist⟩

end Config

/-- A configuration. -/
structure Configuration where
  store : Config.Store
  runtime : Config.Runtime
  index : Index.Settings
  scope : Config.Scope
  deriving DecidableEq

end RepoVitals

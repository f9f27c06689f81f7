import RepoVitals.Config.Configuration
import RepoVitals.Pipeline
/-!
Errands: what one run is asked to do.

Owns the errand and its run under a configuration.  Whatever an errand leaves open is taken from the
configuration.
-/

namespace RepoVitals

open Calendar (Date Moment)
open Catalogue (Family)

/-- How runs under a configuration go about it. -/
def Configuration.procedure (configuration : Configuration) : Procedure :=
  ⟨⟨true, configuration.scope.releases, configuration.runtime.queryConcurrency⟩,
    configuration.scope.discoveryLimit⟩

/-- What one run is asked to do. -/
structure Errand where
  date : Date
  families : Option (List Family)
  repositories : Option (List String)
  deriving DecidableEq

/-- Run an errand. -/
def Errand.run {m : Type → Type} [Monad m] (errand : Errand) (configuration : Configuration)
    (services : Services m) (runAt : Moment) : m (Outcome (List FamilyReport)) :=
  let families := errand.families.getD configuration.scope.families
  let repositories := errand.repositories.getD configuration.scope.repositories
  services.run configuration.procedure families ⟨repositories, errand.date, runAt⟩

end RepoVitals

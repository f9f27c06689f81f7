import RepoVitals.Config.Configuration
import RepoVitals.Config.Record
/-!
Configurations read from settings.

Owns the fields of the configuration and of its parts, under the names that they have in files and
in the environment.
-/

namespace RepoVitals.Config

open Catalogue (Family Release)

/-- The greatest unsigned 64-bit integer. -/
def greatestCount : Nat := UInt64.size - 1

/-- A number of things or seconds. -/
def readCount : Setting → Reading Nat := Setting.readNatural greatestCount

/-- A text that may be left out. -/
def readOptionalText (setting : Setting) : Reading (Option String) :=
  setting.readText.map some

/-- The family with a name. -/
def readFamilyName (name : String) : Reading Family :=
  match Family.ofName? name with
  | some family => .ok family
  | none => fault (.unknownName name)

/-- A family by its name.  A table stands for the family of its first key, but then nothing may
stand under that key. -/
def readFamily : Setting → Reading Family
  | .text name => readFamilyName name
  | .table ((name, _) :: _) => do
    let _ ← (readFamilyName name).under name
    Reading.under (fault .wrongType) name
  | _ => fault .wrongType

/-- The fields of a release. -/
def releaseFields : List Field :=
  [.of Setting.readText "version" [] true, .of Setting.readText "state" [] false]

/-- A release on the watchlist. -/
def readRelease (setting : Setting) : Reading Release := do
  let parts ← setting.readRecord releaseFields
  return ⟨← Parts.read parts "version" Setting.readText "",
    ← Parts.read parts "state" Setting.readText Catalogue.usualState⟩

/-- The fields of the part about the cluster. -/
def storeFields : List Field :=
  [.of Setting.readText "url" [] true, .of readOptionalText "username" [] false,
    .of readOptionalText "password" [] false, .of readOptionalText "api_key" [] false,
    .of readCount "connect_timeout_secs" [] false, .of readCount "request_timeout_secs" [] false,
    .of Setting.readBoolean "compress_requests" [] false]

/-- The part about the cluster. -/
def readStore (setting : Setting) : Reading Store := do
  let parts ← setting.readRecord storeFields
  let url ← Parts.read parts "url" Setting.readText ""
  let standard := Store.at url
  return {
    url := url
    username := ← Parts.read parts "username" readOptionalText standard.username
    password := ← Parts.read parts "password" readOptionalText standard.password
    apiKey := ← Parts.read parts "api_key" readOptionalText standard.apiKey
    connectTimeout := ← Parts.read parts "connect_timeout_secs" readCount standard.connectTimeout
    requestTimeout := ← Parts.read parts "request_timeout_secs" readCount standard.requestTimeout
    compressRequests :=
      ← Parts.read parts "compress_requests" Setting.readBoolean standard.compressRequests }

/-- The fields of the part about the load. -/
def runtimeFields : List Field :=
  [.of readCount "worker_pool_size" ["num_threads"] false,
    .of readCount "bulk_parallelism" [] false,
    .of readCount "bulk_batch_size" ["os_bulk_size"] false,
    .of readCount "bulk_timeout_secs" ["index_thread_timeout_secs"] false,
    .of readCount "query_concurrency" [] false,
    .of Setting.readBoolean "show_progress" [] false]

/-- The part about the load. -/
def readRuntime (setting : Setting) : Reading Runtime := do
  let parts ← setting.readRecord runtimeFields
  let standard := Runtime.standard
  return {
    poolSize := ← Parts.read parts "worker_pool_size" readCount standard.poolSize
    parallelism := ← Parts.read parts "bulk_parallelism" readCount standard.parallelism
    batchSize := ← Parts.read parts "bulk_batch_size" readCount standard.batchSize
    timeout := ← Parts.read parts "bulk_timeout_secs" readCount standard.timeout
    queryConcurrency := ← Parts.read parts "query_concurrency" readCount standard.queryConcurrency
    showProgress := ← Parts.read parts "show_progress" Setting.readBoolean standard.showProgress }

/-- A limit of an index. -/
def readLimit : Setting → Reading Nat := Setting.readNatural Index.Settings.greatest

/-- The fields of the part about new indexes. -/
def indexFields : List Field :=
  Index.Settings.fieldNames.map (fun name => .of readLimit name [] false)

/-- The part about new indexes. -/
def readIndex (setting : Setting) : Reading Index.Settings := do
  let parts ← setting.readRecord indexFields
  let standard := Index.Settings.standard
  return {
    replicas := ← Parts.read parts "number_of_replicas" readLimit standard.replicas
    totalFieldsLimit := ← Parts.read parts "total_fields_limit" readLimit standard.totalFieldsLimit
    depthLimit := ← Parts.read parts "depth_limit" readLimit standard.depthLimit
    nestedFieldsLimit :=
      ← Parts.read parts "nested_fields_limit" readLimit standard.nestedFieldsLimit
    nestedObjectsLimit :=
      ← Parts.read parts "nested_objects_limit" readLimit standard.nestedObjectsLimit }

/-- The fields of the part about what is measured. -/
def scopeFields : List Field :=
  [.of (Setting.readList readFamily) "families" [] false,
    .of (Setting.readList Setting.readText) "repositories" [] false,
    .of readCount "repository_discovery_limit" [] false,
    .of (Setting.readList readRelease) "releases" [] false]

/-- The part about what is measured. -/
def readScope (setting : Setting) : Reading Scope := do
  let parts ← setting.readRecord scopeFields
  let standard := Scope.standard
  return {
    families := ← Parts.read parts "families" (Setting.readList readFamily) standard.families
    repositories :=
      ← Parts.read parts "repositories" (Setting.readList Setting.readText) standard.repositories
    discoveryLimit :=
      ← Parts.read parts "repository_discovery_limit" readCount standard.discoveryLimit
    releases := ← Parts.read parts "releases" (Setting.readList readRelease) standard.releases }

/-- The fields of a configuration. -/
def configurationFields : List Field :=
  [.of readStore "store" ["opensearch"] true, .of readRuntime "runtime" [] false,
    .of readIndex "index_settings" [] false, .of readScope "run" [] false]

/-- A whole configuration. -/
def readConfiguration (setting : Setting) : Reading Configuration := do
  let parts ← setting.readRecord configurationFields
  return {
    store := ← Parts.read parts "store" readStore (.at "")
    runtime := ← Parts.read parts "runtime" readRuntime .standard
    index := ← Parts.read parts "index_settings" readIndex .standard
    scope := ← Parts.read parts "run" readScope .standard }

end RepoVitals.Config

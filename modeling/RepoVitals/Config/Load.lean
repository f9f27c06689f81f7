import RepoVitals.Config.Environment
import RepoVitals.Config.Reading
import RepoVitals.Toml.Document
/-!
Loading a configuration from a file and the environment.

Owns:
- the sources: the environment, and a file if one is named, which may be absent;
- their order: what the file says is laid over what the environment says;
- the failure to load, in words.
-/

namespace RepoVitals.Config

/-- A file that is named as a source; its content is missing if there is no such file. -/
structure File where
  path : String
  content : Option String
  deriving DecidableEq

/-- The settings of a file.  A file that is not there sets nothing. -/
def File.settings (file : File) : Reading Setting :=
  match file.content with
  | none => .ok (.table [])
  | some text =>
    match Toml.document? text with
    | some setting => .ok setting
    | none => fault .unreadable

/-- The settings of both sources. -/
def settingsOf (file : Option File) (environment : Environment) : Reading Setting := do
  let below := Setting.ofEnvironment environment
  match file with
  | none => return below
  | some named => return below.overlay (← named.settings)

/-- Why a configuration could not be loaded, with the path of the file if one was named. -/
structure LoadFailure where
  path : Option String
  fault : Fault
  deriving DecidableEq

/-- The failure in words; the fault itself is left to whoever wants to show it. -/
def LoadFailure.text (failure : LoadFailure) : String :=
  match failure.path with
  | some path =>
    "💀 Failed to parse configuration from file '" ++ path ++
      "' and environment variables (PMX_*). " ++
      "The file exists in our hearts, but apparently not on disk."
  | none =>
    "💀 Failed to parse configuration from environment variables (PMX_*). " ++
      "No file was provided, this one's all on the environment. Classic."

/-- Load a configuration. -/
def load (file : Option File) (environment : Environment) :
    Except LoadFailure Configuration :=
  ((settingsOf file environment).bind readConfiguration).mapError
    (fun fault => ⟨file.map File.path, fault⟩)

end RepoVitals.Config

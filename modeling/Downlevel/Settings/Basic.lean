import Downlevel.Log.Level
import Downlevel.Path
/-!
# Settings

What is configured apart from the parameters of a single run: how Retrolambda is obtained and called,
which toolchains are managed, and what is logged.
-/
namespace Downlevel

/-- Where the jar is copied from. -/
inductive ArtifactSource where
  | directory
  | buildTool
  deriving DecidableEq, Repr

/-- The name of a source of artifacts. -/
def ArtifactSource.name : ArtifactSource → String
  | directory => "local"
  | buildTool => "maven"

/-- The sources of artifacts by name. -/
def ArtifactSource.table : List (String × ArtifactSource) :=
  [directory, buildTool].map fun s => (s.name, s)

/-- How Retrolambda is obtained and called. -/
structure RunnerSettings where
  entryPoint : String
  artifactSource : ArtifactSource
  localRepository : Path
  buildTool : String
  version : Option String
  deriving DecidableEq, Repr

/-- Which toolchains are managed, and which one is selected for the build. -/
structure ToolchainSettings where
  file : Option Path
  buildContextVersion : Option String
  deriving DecidableEq, Repr

/-- What is logged, and where. -/
structure LoggingSettings where
  level : Level
  pattern : String
  file : Option Path
  rich : Bool
  deriving DecidableEq, Repr

/-- All settings. -/
structure Settings where
  runner : RunnerSettings
  toolchain : ToolchainSettings
  logging : LoggingSettings
  deriving DecidableEq, Repr

end Downlevel

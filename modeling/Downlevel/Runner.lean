import Downlevel.Backend.Embedded
import Downlevel.Backend.Forked
import Downlevel.Logging
import Downlevel.Resolution
/-!
# Running Retrolambda

A runner processes the classes of a project. The toolchains, the repository and the host runtime that
it works with are given, or else made from the settings and the environment when they are first
needed. A skipped run touches nothing.
-/
namespace Downlevel

/-- A runner: a project, settings, and what was given or made so far. -/
structure Runner where
  project : Project
  settings : Settings
  toolchains : Option Registry := none
  repository : Option Repository := none
  host : Option Host := none

namespace Runner

/-- The steps of a runner. -/
abbrev Step (α : Type) : Type :=
  ActionOn Runner α

/-- The logger of runners. -/
def logger : String := "retrolambda_runner.process.runner"

/-- Logs a message of the runner. -/
def tell (level : Level) (message : String) : Step Unit :=
  ActionOn.lift (logAs logger level message)

/-- A runner with given settings, or else those of the program. -/
def create (project : Project) (settings : Option Settings) (toolchains : Option Registry := none)
    (repository : Option Repository := none) (host : Option Host := none) : Action Runner := do
  let settings ← match settings with
    | some s => pure s
    | none => Settings.current
  return { project, settings, toolchains, repository, host }

/-- The repository that settings ask for. -/
def repositoryOf (s : Settings) (project : Project) : Repository :=
  match s.runner.artifactSource with
  | .directory => .localStore s.runner.localRepository
  | .buildTool => .buildTool
      { executable := s.runner.buildTool, projectDir := some project.baseDir }

/-- The toolchains that settings name, with the one selected that they ask for. -/
def toolchainsOf (s : Settings) : Action Registry := do
  let registry ← Registry.load s.toolchain.file
  match s.toolchain.buildContextVersion.filter (· ≠ "") with
  | some version =>
    let (_, selected) ← registry.select Resolution.jdk [("version", version)]
    return selected
  | none => return registry

/-- The toolchains of a runner. -/
def useToolchains : Step Registry := do
  let r ← ActionOn.thing
  match r.toolchains with
  | some registry => return registry
  | none =>
    let registry ← ActionOn.lift (toolchainsOf r.settings)
    ActionOn.update fun r => { r with toolchains := some registry }
    return registry

/-- The repository of a runner. -/
def useRepository : Step Repository := do
  let r ← ActionOn.thing
  match r.repository with
  | some repository => return repository
  | none =>
    let repository := repositoryOf r.settings r.project
    ActionOn.update fun r => { r with repository := some repository }
    return repository

/-- The host runtime of a runner. -/
def useHost : Step Host := do
  let r ← ActionOn.thing
  match r.host with
  | some host => return host
  | none =>
    let host ← ActionOn.lift (Action.view fun w => Host.detect w w.environment)
    ActionOn.update fun r => { r with host := some host }
    return host

/-- What the resolution of the Java runtime depends on. -/
def context (java8Home : Option Path) : Step Resolution.Context := do
  let toolchains ← useToolchains
  let host ← useHost
  return { java8Home, toolchains, host }

/-- The Java runtime that a forked run would use. -/
def resolveJava (parameters : Parameters) : Step Candidate := do
  let c ← context parameters.java8Home
  ActionOn.lift (Resolution.resolve c Resolution.chain)

/-- What a run is carried out by. -/
inductive Carrier where
  | embedded (entryPoint : Embedded.EntryPoint)
  | forked (backend : Forked.Backend)

/-- The name of what a run is carried out by. -/
def Carrier.name : Carrier → String
  | embedded _ => Embedded.name
  | forked _ => Forked.name

/-- What carries out the run of a configuration. -/
def carrier (config : BuildConfig) : Step Carrier := do
  let r ← ActionOn.thing
  if config.fork then
    let c ← context config.java8Home
    let repository ← useRepository
    let w ← ActionOn.lift (Action.view id)
    let version ← ActionOn.lift (Action.ofExcept (Artifact.detectVersion w r.settings.runner.version))
    return .forked {
      acquirer := ⟨repository, r.project.buildDir⟩
      java := .deferred do return (← Resolution.resolve c Resolution.chain).executable
      version }
  else return .embedded (.named r.settings.runner.entryPoint)

/-- Carries out the run of a configuration. -/
def Carrier.run (c : Carrier) (config : BuildConfig) : Action Result :=
  match c with
  | embedded entryPoint => Embedded.run entryPoint config
  | forked backend => fun w =>
    match (Forked.run config).runOn backend w with
    | ((r, _), w') => (r, w')

/-- Runs Retrolambda for a goal. -/
def execute (parameters : Parameters) (goal : Goal) : Step Result := do
  if parameters.skip then
    tell .info "Skipping execution (skip=true)"
    return .skip "skip=true"
  else
    let host ← useHost
    let r ← ActionOn.thing
    let config ← ActionOn.lift (Validation.validate parameters r.project host goal)
    let c ← carrier config
    tell .debug ("Using " ++ c.name ++ " backend for " ++ goal.name)
    let result ← ActionOn.lift (c.run config)
    tell .debug ("Retrolambda result: " ++ result.summary.print)
    return result

end Runner

end Downlevel

import Downlevel.Configuration
import Downlevel.Settings.Section
/-!
# Loading settings

Settings come from a configuration file, whose sections are then stronger than all variables, or from
variables alone. A variable named for a whole section holds its fields as a JSON object. The settings
of the program are loaded once; a failure to load them is not remembered.
-/
namespace Downlevel

namespace SectionVariables

/-- The data in the variables of all sections. -/
def read : Action (List (Option Data)) := do
  let vs ← Variables.read
  let library ← Action.view (·.machine.libraries.settings)
  Action.ofExcept (library.wholeSections vs)

end SectionVariables

namespace Settings

/-- Reads a section from the data in its variable, or from the variables of its fields alone. An
outright fault ends the reading. -/
def part (s : SettingsSection α) (d : Option Data) : Action (Reading α) := do
  match d with
  | none => return .value (← s.load [])
  | some (.map given) =>
    match ← s.reading given with
    | .broken e => throw e
    | r => return r.below (.name s.name)
  | some _ => return (Reading.refuse "model_type").below (.name s.name)

/-- A section that is given, or else read from variables. -/
def givenOr (s : SettingsSection α) (given : Option α) (d : Option Data) : Action (Reading α) :=
  match given with
  | some x => return .value x
  | none => part s d

/-- The settings of some given sections; the others come from variables. The variables of whole
sections are read in any case, so that their faults show. -/
def ofSections (runner : Option RunnerSettings) (toolchain : Option ToolchainSettings)
    (logging : Option LoggingSettings) : Action Settings := do
  let parts ← SectionVariables.read
  let nth (n : Nat) : Option Data := (parts[n]?).join
  let runner ← givenOr RunnerSettings.inSettings runner (nth 0)
  let toolchain ← givenOr ToolchainSettings.inSettings toolchain (nth 1)
  let logging ← givenOr LoggingSettings.inSettings logging (nth 2)
  Action.ofExcept
    (((((Reading.value mk).seq runner).seq toolchain).seq logging).result "Settings")

/-- The settings from variables alone. -/
def ofVariables : Action Settings :=
  ofSections none none none

/-- The settings from a configuration file. -/
def ofFile (p : Path) : Action Settings := do
  let (_, c) ← Configuration.load { path := some p } none
  let runner ← RunnerSettings.inSettings.load (c.sectionNamed "runner")
  let toolchain ← ToolchainSettings.inSettings.load (c.sectionNamed "toolchain")
  let logging ← LoggingSettings.inSettings.load (c.sectionNamed "logging")
  ofSections (some runner) (some toolchain) (some logging)

/-- The settings from the configuration file of the installation if it is there, or else from
variables. -/
def ofInstallation : Action Settings := do
  let file ← Action.view (·.machine.installedFile)
  if ← Files.holds file then ofFile file else ofVariables

/-- The settings of the program. -/
def current : Action Settings := do
  match (← get).settings with
  | some s => return s
  | none =>
    let s ← ofInstallation
    modify fun w => { w with settings := some s }
    return s

end Settings

end Downlevel

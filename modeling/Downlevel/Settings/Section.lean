import Downlevel.Home
import Downlevel.World.Files
/-!
# The sections of the settings

Each section names its fields, their defaults and how they are read. Where the value of a field comes
from, and what is a text, a truth value or a word, is left to the library of settings. Paths may start
with a tilde for the home directory, and an empty path is none where none is allowed.
-/
namespace Downlevel

namespace Variables

/-- The file of variables. -/
def fileName : Path := Path.ofString ".env"

/-- The logger of the reader of variables. -/
def logger : String := "dotenv.main"

/-- Tells of the lines of a file of variables that are none. -/
def tell (faults : List Nat) : Action Unit :=
  faults.forM fun n =>
    logAs logger .warning ("python-dotenv could not parse statement starting at line " ++ toString n)

/-- The variables at hand: those of the environment, and those of the file in the working directory. -/
def read : Action Variables := do
  let w ← get
  if ← Files.isFile fileName then
    let bytes ← Files.read fileName
    let (bindings, faults) ←
      Action.ofExcept (w.machine.libraries.settings.parseFile w.environment bytes)
    tell faults
    return ⟨w.environment, bindings⟩
  else return ⟨w.environment, []⟩

end Variables

namespace Field

/-- The last part of the name of a kind of value. -/
def shortKindName (d : Data) : String :=
  ((Text.parts '.' d.kindName).getLast?).getD ""

/-- A path that may start with the home directory. What is no text is an outright fault. -/
def homePath (homes : Homes) (environment : List (String × String)) : Data → Reading Path
  | .text s =>
    match Home.expand homes environment (Path.ofString s) with
    | .ok p => .value p
    | .error e => .broken e
  | d => .broken ⟨.foreign "TypeError"
      ("expected str, bytes or os.PathLike object, not " ++ shortKindName d), []⟩

/-- A path that may start with the home directory, or none. -/
def optionalHomePath (homes : Homes) (environment : List (String × String)) :
    Data → Reading (Option Path)
  | .null => .value none
  | .text s => if s = "" then .value none else (homePath homes environment (.text s)).map some
  | d => (homePath homes environment d).map some

/-- The name of a level in any letter case. What is no text is an outright fault. -/
def level : Data → Reading Level
  | .text s =>
    match Level.ofName? (Text.uppercase s) with
    | some l => .value l
    | none => .refuse "value_error"
  | d => .broken ⟨.foreign "AttributeError"
      ("'" ++ d.kindName ++ "' object has no attribute 'upper'"), []⟩

/-- The source of artifacts that a word names. -/
def source (library : SettingsLibrary) (d : Data) : Reading ArtifactSource :=
  match library.literal (ArtifactSource.table.map Prod.fst) d with
  | .value s =>
    match ArtifactSource.table.lookup s with
    | some a => .value a
    | none => .refuse "literal_error"
  | .refused issues => .refused issues
  | .broken e => .broken e

end Field

/-- A section of the settings: its name, the title of its faults, and how it is read. -/
structure SettingsSection (α : Type) where
  name : String
  title : String
  read : Machine → SettingsSource → Reading α

/-- Reads a field, or takes its default. -/
def SettingsSource.field (library : SettingsLibrary) (s : SettingsSource) (name : String)
    (fallback : Except Failure α) (read : Data → Reading α) : Reading α :=
  match library.value? s name with
  | some d => (read d).below (.name name)
  | none => match fallback with
    | .ok x => .value x
    | .error e => .broken e

namespace SettingsSection

/-- Whether all given fields have texts as names. -/
def hasNames (given : Fields) : Bool :=
  given.all fun e => match e.1 with
    | .text _ => true
    | _ => false

/-- Reads a section with given fields. -/
def reading (s : SettingsSection α) (given : Fields) : Action (Reading α) := do
  if hasNames given then
    let bindings ← Variables.read
    let machine ← Action.view (·.machine)
    return s.read machine ⟨given, bindings, SectionVariables.familyName ++ s.name ++ "_"⟩
  else return .broken ⟨.foreign "TypeError" "keywords must be strings", []⟩

/-- The section with given fields. -/
def load (s : SettingsSection α) (given : Fields) : Action α := do
  Action.ofExcept ((← s.reading given).result s.title)

end SettingsSection

/-- A file below the directory of the build tool in the home directory. -/
def buildToolFile (m : Machine) (s : SettingsSource) (name : String) : Except Failure Path :=
  (Home.directory m.homes s.bindings.environment).map fun home => (home.child ".m2").child name

namespace RunnerSettings

/-- Reads how Retrolambda is obtained and called. -/
def read (m : Machine) (s : SettingsSource) : Reading RunnerSettings :=
  let library := m.libraries.settings
  (((((Reading.value mk).seq
    (s.field library "embedded_entry_point" (.ok "retrolambda:run") library.text)).seq
    (s.field library "artifact_source" (.ok .directory) (Field.source library))).seq
    (s.field library "local_repository" (buildToolFile m s "repository")
      (Field.homePath m.homes s.bindings.environment))).seq
    (s.field library "maven_executable" (.ok "mvn") library.text)).seq
    (s.field library "retrolambda_version" (.ok none) (Field.optional library.text))

/-- The section on how Retrolambda is obtained and called. -/
def inSettings : SettingsSection RunnerSettings :=
  ⟨"runner", "RunnerSettings", read⟩

end RunnerSettings

namespace ToolchainSettings

/-- Reads which toolchains are managed. -/
def read (m : Machine) (s : SettingsSource) : Reading ToolchainSettings :=
  let library := m.libraries.settings
  ((Reading.value mk).seq
    (s.field library "toolchains_file" ((buildToolFile m s "toolchains.xml").map some)
      (Field.optionalHomePath m.homes s.bindings.environment))).seq
    (s.field library "build_context_version" (.ok none) (Field.optional library.text))

/-- The section on toolchains. -/
def inSettings : SettingsSection ToolchainSettings :=
  ⟨"toolchain", "ToolchainSettings", read⟩

end ToolchainSettings

namespace LoggingSettings

/-- Reads what is logged. -/
def read (m : Machine) (s : SettingsSource) : Reading LoggingSettings :=
  let library := m.libraries.settings
  ((((Reading.value mk).seq (s.field library "level" (.ok .info) Field.level)).seq
    (s.field library "format" (.ok "[%(name)s] %(message)s") library.text)).seq
    (s.field library "file" (.ok none)
      (Field.optionalHomePath m.homes s.bindings.environment))).seq
    (s.field library "use_rich" (.ok true) library.bool)

/-- The section on logging. -/
def inSettings : SettingsSection LoggingSettings :=
  ⟨"logging", "LoggingSettings", read⟩

end LoggingSettings

end Downlevel

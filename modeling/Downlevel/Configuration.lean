import Downlevel.World.Files
/-!
# Configuration files

A configuration file is a YAML document that is a mapping; an empty document is an empty mapping. A
loaded configuration is kept until another file is loaded, and a failure to load leaves it alone.
-/
namespace Downlevel

/-- The configuration that was loaded last, and the file that is loaded unless another is named. -/
structure Configuration where
  path : Option Path := none
  entries : Fields := []

namespace Configuration

/-- A fault of a configuration file. -/
def fault (message : String) (p : Path) (details : Details) : RunFault :=
  .about .configuration (message ++ ": " ++ p.toString) (some (.text p.toString)) details

/-- Whether a fault says that a file is not there. -/
def isAbsence : Fault → Bool
  | .os e _ _ => e.number = 2
  | .foreign n _ => n = "FileNotFoundError"
  | _ => false

/-- What becomes of a failure to read a configuration file: an absent file and a text that is no YAML
are faults of the configuration, and all else stays what it is. -/
def readFailure (p : Path) (e : Failure) : Failure :=
  match e.fault with
  | .malformed reason =>
    .because (fault "Invalid YAML in configuration file" p [("error", .text reason)]) e
  | f =>
    if isAbsence f then
      .because (fault "Configuration file not found" p [("path", .text p.toString)]) e
    else e

/-- The data of a configuration file. -/
def readData (p : Path) : Action Data :=
  (do let bytes ← Files.read p
      let yaml ← Action.view (·.machine.libraries.yaml)
      Action.ofExcept (yaml bytes) : Action Data).orFail (fun _ => true) (readFailure p)

/-- The mapping of a configuration file. A document that holds nothing is the empty mapping. -/
def readEntries (p : Path) : Action Fields := do
  match ← readData p with
  | .map entries => return entries
  | d =>
    if d.isTruthy then
      throw (.ofRun (fault "Configuration file must contain a mapping" p []))
    else return []

/-- Loads a file: the mapping in it, and the configuration afterwards. Without any file the mapping
is empty and the configuration stays. -/
def load (c : Configuration) (path : Option Path) : Action (Fields × Configuration) := do
  match path.or c.path with
  | none => return ([], c)
  | some p =>
    let entries ← readEntries p
    return (entries, { c with entries })

/-- Loads a file into a configuration: the mapping in it becomes that of the configuration. -/
def reload (path : Option Path) : ActionOn Configuration Fields := do
  let (entries, c) ← ActionOn.lift ((← ActionOn.thing).load path)
  ActionOn.update fun _ => c
  return entries

/-- The value that a path of names leads to. -/
def follow (d : Data) : List String → Option Data
  | [] => some d
  | name :: rest =>
    match d.get? name with
    | some value => follow value rest
    | none => none

/-- The value of a dotted key. -/
def get? (c : Configuration) (key : String) : Option Data :=
  follow (.map c.entries) (Text.parts '.' key)

/-- A section; what is no mapping counts as empty. -/
def sectionNamed (c : Configuration) (name : String) : Fields :=
  match Data.field? name c.entries with
  | some (.map entries) => entries
  | _ => []

end Configuration

end Downlevel

import Downlevel.Toolchain
import Downlevel.World.Files
import Downlevel.Xml.Element
/-!
# Toolchain registries

The managed toolchains in the order of their file, and for each type the one that was selected for
the build. A toolchain without a type or without a home is passed over with a warning.
-/
namespace Downlevel

/-- Managed toolchains, and those selected by type. -/
structure Registry where
  toolchains : List Toolchain := []
  selected : List (String × Toolchain) := []
  deriving DecidableEq, Repr

namespace Registry

/-- The logger of registries. -/
def logger : String := "retrolambda_runner.process.toolchains"

/-- The element that holds the home of a type of toolchain. -/
def homeElement (type : String) : String :=
  if type = "jdk" then "jdkHome" else "home"

/-- Sets a provided value: an old one is replaced in its place. -/
def setProvided (key value : String) : List (String × String) → List (String × String)
  | [] => [(key, value)]
  | (k, v) :: rest => if k = key then (k, value) :: rest else (k, v) :: setProvided key value rest

/-- What the children of an element provide; empty ones provide nothing. -/
def providedBy (e : Xml.Element) : List (String × String) :=
  e.children.foldl (fun acc item => match item.content? with
    | some value => setProvided item.name value acc
    | none => acc) []

/-- What a toolchain element says: a toolchain, or why it is passed over. -/
def readElement (e : Xml.Element) : Except String Toolchain :=
  match (e.child? "type").bind Xml.Element.content? with
  | none => .error "toolchain without <type>"
  | some type =>
    match ((e.child? "configuration").bind (·.child? (homeElement type))).bind
        Xml.Element.content? with
    | none => .error (type ++ " toolchain without <" ++ homeElement type ++ ">")
    | some home =>
      .ok ⟨type, ((e.child? "provides").map providedBy).getD [], Path.ofString home⟩

/-- The toolchains below the outermost element of a file. -/
def readElements (source : String) : List Xml.Element → Action (List Toolchain)
  | [] => return []
  | e :: rest => do
    if e.name ≠ "toolchain" then readElements source rest
    else match readElement e with
      | .ok t => return t :: (← readElements source rest)
      | .error reason =>
        logAs logger .warning ("Ignoring " ++ reason ++ " in " ++ source)
        readElements source rest

/-- The toolchains that an outermost element holds. -/
def readRoot (source : String) (root : Xml.Element) : Action (List Toolchain) := do
  let toolchains ← readElements source root.children
  logAs logger .debug ("Loaded " ++ toString toolchains.length ++ " toolchain(s) from " ++ source)
  return toolchains

/-- The failure to read a toolchains file. -/
def unreadable (p : Path) (cause : Failure) : Failure :=
  .because (.about .toolchains ("Failed to read toolchains from " ++ p.toString)
    (some (.text p.toString)) [("error", .text cause.fault.text)]) cause

/-- Whether a fault in a toolchains file is reported as one. -/
def isReadFault : Fault → Bool
  | .malformed _ => true
  | f => f.isOs

/-- The outermost element of a toolchains file. -/
def readDocument (p : Path) : Action Xml.Element := do
  let bytes ← Files.read p
  let codecs ← Action.view (·.machine.libraries.codecs)
  Action.ofExcept (Xml.parse codecs bytes)

/-- The registry of a toolchains file. A file that is not there gives an empty registry. -/
def load (p : Option Path) : Action Registry := do
  match p with
  | none =>
    logAs logger .debug "No toolchains file at None"
    return {}
  | some p =>
    if ← Files.holds p then
      let root ← (readDocument p).orFail isReadFault (unreadable p)
      return ⟨← readRoot p.toString root, []⟩
    else
      logAs logger .debug ("No toolchains file at " ++ p.toString)
      return {}

/-- The toolchains of a type that meet all requirements, in order. -/
def findIn (type : String) (requirements : List (String × String)) :
    List Toolchain → Except Failure (List Toolchain)
  | [] => .ok []
  | t :: rest =>
    if t.type = type then
      match t.satisfies requirements with
      | .error e => .error e
      | .ok met =>
        match findIn type requirements rest with
        | .error e => .error e
        | .ok more => .ok (if met then t :: more else more)
    else findIn type requirements rest

/-- The toolchains of a registry that have a type and meet all requirements. -/
def find (r : Registry) (type : String) (requirements : List (String × String)) :
    Except Failure (List Toolchain) :=
  findIn type requirements r.toolchains

/-- Sets the selected toolchain of a type. -/
def setSelected (r : Registry) (type : String) (t : Toolchain) : Registry :=
  { r with selected := (type, t) :: r.selected.filter fun e => e.1 ≠ type }

/-- Selects the first toolchain that meets the requirements for the build. Without one the earlier
selection stays. -/
def select (r : Registry) (type : String) (requirements : List (String × String)) :
    Action (Option Toolchain × Registry) := do
  match ← Action.ofExcept (r.find type requirements) with
  | [] =>
    logAs logger .warning ("No " ++ type ++ " toolchain matches "
      ++ (Data.ofPairs requirements).print)
    return (none, r)
  | t :: _ => return (some t, r.setSelected type t)

/-- The toolchain that was selected for the build. -/
def forBuild (r : Registry) (type : String) : Option Toolchain :=
  r.selected.lookup type

/-- What is selected for a type is given for it. -/
theorem forBuild_setSelected (r : Registry) (type : String) (t : Toolchain) :
    (r.setSelected type t).forBuild type = some t := by
  simp [forBuild, setSelected]

end Registry

end Downlevel

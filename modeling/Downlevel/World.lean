import Downlevel.Machine
import Downlevel.Settings.Basic
/-!
# The world around a run

Everything outside a run that it can see or change: the machine, files, the environment, the clock,
modules that can be loaded, processes that can be started, the log. A step of a run is a function of
the world that gives a result or a failure, and the world afterwards in either case.
-/
namespace Downlevel

/-- What can be put into a file tree. -/
inductive FileSpec where
  | file (bytes : List UInt8) (executable : Bool)
  | link (target : String)
  | directory
  deriving DecidableEq, Repr

/-- What a call does: it takes time, and may raise a fault with its causes. -/
structure Calling where
  seconds : Float := 0.0
  raised : Option Failure := none

/-- An object: what it is called where an attribute is missed, what a call of it does if it can be called,
and its attributes, each with the failure of looking it up if that fails. -/
inductive Member where
  | object (shown : String) (calling : Option Calling)
      (attributes : List (String × Except Failure Member))

/-- The attributes of an object. -/
abbrev Attributes : Type :=
  List (String × Except Failure Member)

namespace Member

/-- What an object is called where an attribute is missed. -/
def shown : Member → String
  | object s _ _ => s

/-- What a call of an object does, if it can be called. -/
def calling : Member → Option Calling
  | object _ c _ => c

/-- The attributes of an object that it was given. -/
def attributes : Member → Attributes
  | object _ _ as => as

/-- A plain value. -/
def value (data : Data) : Member :=
  object ("'" ++ data.kindName ++ "' object") none []

instance : Inhabited Member :=
  ⟨value .null⟩

/-- An object with attributes that cannot be called. -/
def group (members : List (String × Member)) : Member :=
  object "'Namespace' object" none (members.map fun e => (e.1, .ok e.2))

/-- A function. -/
def function (seconds : Float) (raised : Option Failure) : Member :=
  object "'function' object" (some ⟨seconds, raised⟩) []

end Member

/-- A module that can be loaded: what it offers, and the failure of its code if that fails. -/
structure Module where
  attributes : Attributes
  raised : Option Failure := none

/-- A module whose code does not fail. -/
instance : Coe (List (String × Member)) Module :=
  ⟨fun members => { attributes := members.map fun e => (e.1, .ok e.2) }⟩

/-- What a process writes to a stream: bytes, or a text that stands for itself. -/
inductive Output where
  | text (value : String)
  | bytes (value : List UInt8)
  deriving DecidableEq, Repr

instance : Coe String Output :=
  ⟨.text⟩

/-- What a started process will do. -/
structure ProcessScript where
  returnCode : Int := 0
  stdout : Output := ""
  stderr : Output := ""
  seconds : Float := 0.0
  removes : List String := []
  writes : List (String × FileSpec) := []
  raised : Option Fault := none

/-- A write that the system breaks off: how many bytes were written, and why it goes no further. -/
structure Break where
  written : Nat
  errno : Errno
  deriving DecidableEq, Repr

/-- A process that was to be started: its command, its directory, and the text of the classpath file
that the command names, as it was then. -/
structure StartedProcess where
  command : List String
  directory : Option Path
  classpath : Option String
  deriving DecidableEq, Repr

/-- A call of a function of a module with named arguments. -/
structure EntryCall where
  target : String
  arguments : List (String × String)
  deriving DecidableEq, Repr

/-- The world around a run. -/
structure World where
  machine : Machine := {}
  tree : FileTree
  cwd : Place
  environment : List (String × String)
  modules : List (String × Module) := []
  scripts : List ProcessScript := []
  /-- How the coming writes of files go, those after the last of them well. -/
  breaks : List (Option Break) := []
  distributionVersion : Option String := none
  clock : Float := 0.0
  /-- Where in the program messages come from. -/
  origin : Log.Origin := {}
  temporaryFiles : Nat := 0
  pending : List Path := []
  log : Log.Setup := ⟨.debug, []⟩
  /-- The settings that were loaded for the whole program. -/
  settings : Option Settings := none
  errorStream : String := ""
  journal : List (String × String) := []
  started : List StartedProcess := []
  calls : List EntryCall := []

/-- A step of a run. The world after a failure is kept. -/
abbrev Action (α : Type) : Type :=
  ExceptT Failure (StateM World) α

namespace Action

/-- Runs a step in a world. -/
def runIn (a : Action α) (w : World) : Except Failure α × World :=
  a w

/-- The step of a result. -/
def ofExcept : Except Failure α → Action α
  | .ok x => pure x
  | .error e => throw e

/-- Fails with a fault. -/
def fail (f : Fault) : Action α :=
  throw ⟨f, []⟩

/-- Reads something off the world. -/
def view (f : World → α) : Action α := do
  return f (← get)

/-- Does a step and then another one, whether the first failed or not. -/
def followedBy (a : Action α) (b : Action Unit) : Action α := fun w =>
  match a w with
  | (.ok x, w') =>
    match b w' with
    | (.ok _, w'') => (.ok x, w'')
    | (.error e, w'') => (.error e, w'')
  | (.error e, w') =>
    match b w' with
    | (.ok _, w'') => (.error e, w'')
    | (.error e', w'') => (.error e', w'')

/-- Turns the failures of a step for which a test holds into other failures. -/
def orFail (a : Action α) (test : Fault → Bool) (wrap : Failure → Failure) : Action α := fun w =>
  match a w with
  | (.error e, w') => (.error (if test e.fault then wrap e else e), w')
  | r => r

end Action

/-- The steps of something that is changed by them; the changes before a failure are kept too. -/
abbrev ActionOn (σ α : Type) : Type :=
  ExceptT Failure (StateT σ (StateM World)) α

namespace ActionOn

/-- A step that leaves the thing alone. -/
def lift (a : Action α) : ActionOn σ α := fun s w =>
  match a.runIn w with
  | (r, w') => ((r, s), w')

/-- The thing as it is. -/
def thing : ActionOn σ σ := fun s w =>
  ((.ok s, s), w)

/-- Changes the thing. -/
def update (f : σ → σ) : ActionOn σ Unit := fun s w =>
  ((.ok (), f s), w)

/-- Runs the steps on a thing: the result, the thing and the world afterwards. -/
def runOn (a : ActionOn σ α) (s : σ) (w : World) : (Except Failure α × σ) × World :=
  a s w

end ActionOn

namespace World

/-- The identity of the next new file. A file that was removed and is still open for the log keeps
its identity to itself. -/
def freshId (w : World) : Nat :=
  max w.tree.lastId w.log.lastId + 1

/-- Prints the report that a handler could not write a record. -/
def lost (r : Log.Record) (w : World) : World :=
  { w with errorStream := w.errorStream ++ w.machine.logFault r }

/-- Sends a record to a handler. A file takes no surrogates; the error stream shows them escaped. -/
def deliver (r : Log.Record) (w : World) : Log.Handler → World
  | .stream pattern =>
    match Log.line? pattern r with
    | some line => { w with errorStream := w.errorStream ++ Text.printed line ++ "\n" }
    | none => w.lost r
  | .display => w
  | .file id level =>
    if level.number ≤ r.level.number then
      match (Log.line? Log.filePattern r).map fun line => Text.encodeUtf8 (line ++ ['\n'.toNat]) with
      | some (.ok bytes) => { w with tree := w.tree.append id bytes }
      | _ => w.lost r
    else w

/-- The record of a message. -/
def record (w : World) (logger : String) (level : Level) (message : Text.CodePoints) : Log.Record :=
  ⟨logger, level, message, w.clock, w.machine.zone w.clock, w.origin⟩

/-- Records a message. Messages of the family are also kept in the journal; one of another logger
without any handler goes to the error stream as it is, from warnings on. -/
def recordedPoints (w : World) (logger : String) (level : Level) (message : Text.CodePoints) :
    World :=
  if w.log.records level then
    let w' := if Log.inFamily logger then
        { w with journal := w.journal ++ [(level.name, Text.printed message)] }
      else w
    if w'.log.handlers.isEmpty && !Log.inFamily logger && Level.warning.number ≤ level.number then
      { w' with errorStream := w'.errorStream ++ Text.printed message ++ "\n" }
    else
      w'.log.handlers.foldl (deliver (w.record logger level message)) w'
  else w

/-- Records a message that is a string. -/
def recorded (w : World) (logger : String) (level : Level) (message : String) : World :=
  w.recordedPoints logger level (Text.codePoints message)

/-- The value of a variable of the environment. -/
def named? (w : World) (name : String) : Option String :=
  w.environment.lookup name

/-- The text of the argument of a command that names its classpath file. -/
def classpathFileOf (command : List String) : Option String :=
  let key := "-Dnet.orfjackal.retrolambda.classpathFile="
  (command.find? fun a => key.toList.isPrefixOf a.toList).map fun a =>
    String.ofList (a.toList.drop key.length)

/-- Removes whatever stands at a path text. -/
def removed (w : World) (s : String) : World :=
  match w.tree.locate w.cwd false (Path.ofString s) with
  | .ok place => { w with tree := w.tree.takeAll place }
  | .error _ => w

/-- Makes the missing directories on the way to a place. -/
def withParents (t : FileTree) (p : Place) : FileTree :=
  (List.range p.length).foldl (fun t n =>
    let q := p.take n
    match t.find? q with
    | some _ => t
    | none => t.put q .directory) t

/-- Puts a file, link or directory at a path text; missing directories on the way are made. -/
def placed (w : World) (s : String) (spec : FileSpec) : World :=
  let p := Path.ofString s
  let full : Place := if p.isAbsolute then p.names else w.cwd ++ p.names
  let place := (w.tree.walk false FileTree.linkLimit [] full).toOption.getD full
  let tree := withParents w.tree place
  match spec with
  | .directory =>
    match tree.find? place with
    | some .directory => { w with tree }
    | _ => { w with tree := tree.put place .directory }
  | .link target => { w with tree := tree.put place (.link target) }
  | .file bytes executable =>
    let target := (tree.walk true FileTree.linkLimit [] place).toOption.getD place
    let id := match tree.find? target with
      | some (.file id _ _) => id
      | _ => max tree.lastId w.log.lastId + 1
    { w with tree := tree.put target (.file id executable bytes) }

end World

/-- Records a message under a logger of the family. -/
def logAs (logger : String) (level : Level) (message : String) : Action Unit :=
  modify fun w => w.recorded logger level message

end Downlevel

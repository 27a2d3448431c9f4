import Downlevel.World
/-!
# Starting processes

A process is started with a command. What it does is written in the next script; without one the
command is not there. What it writes is read as text, and bytes that are none are a failure.
-/
namespace Downlevel.Process

/-- What a process leaves behind. -/
structure Outcome where
  returnCode : Int
  stdout : String
  stderr : String
  deriving DecidableEq, Repr

/-- The text of the classpath file that a command names, if it is there. -/
def classpathText (w : World) (command : List String) : Option String :=
  (World.classpathFileOf command).bind fun file =>
    match w.tree.read w.cwd (Path.ofString file) with
    | .ok bytes => some (String.ofList (Text.unifyNewlines (Text.decodeLossy bytes)))
    | .error _ => none

/-- The world after the script of a process: time passes, then paths vanish, then others appear. -/
def after (script : ProcessScript) (w : World) : World :=
  let timed := { w with clock := w.clock + script.seconds }
  let cleared := script.removes.foldl World.removed timed
  script.writes.foldl (fun w e => w.placed e.1 e.2) cleared

/-- What a process wrote to a stream, as a text. -/
def textOf : Output → Except Failure String
  | .text s => .ok s
  | .bytes bs => (Decoding.ofBytes bs).map String.ofList

/-- What is there once a process has ended: its outcome, or why there is none. -/
def outcomeOf (script : ProcessScript) : Except Failure Outcome :=
  match script.raised with
  | some fault => .error ⟨fault, []⟩
  | none =>
    match textOf script.stdout, textOf script.stderr with
    | .error e, _ => .error e
    | _, .error e => .error e
    | .ok stdout, .ok stderr => .ok ⟨script.returnCode, stdout, stderr⟩

/-- Whether a command or its directory has a null character. -/
def hasNull (command : List String) (directory : Option Path) : Bool :=
  (command.any fun word => word.toList.contains '\x00') || directory.any Path.hasNull

/-- Why a command is not started in a directory, if it is not. -/
def startFault? (w : World) (command : List String) (directory : Option Path) : Option Fault :=
  if hasNull command directory then some .nullByte
  else w.machine.startFault w.tree w.cwd command directory

/-- What keeps a command from being started in a directory that is not there. -/
def directoryFault (t : FileTree) (cwd : Place) (_ : List String) (directory : Option Path) :
    Option Fault :=
  match directory with
  | none => none
  | some p =>
    let refusal (e : Errno) : Option Fault :=
      some (.foreign (osFaultName e.number) (Fault.osText (toString e.number) e.message
        (some ("PosixPath(" ++ Text.quoted p.toString ++ ")")) none))
    match t.status cwd p with
    | .ok .directory => none
    | .ok _ => refusal .notDirectory
    | .error e => refusal e

/-- A world with the note of a process that is to be started. -/
def noted (command : List String) (directory : Option Path) (w : World) : World :=
  { w with started := w.started ++ [⟨command, directory, classpathText w command⟩] }

/-- Runs a command to its end. It is noted even if it cannot be started. -/
def run (command : List String) (directory : Option Path) : Action Outcome := do
  let w ← get
  match startFault? w command directory with
  | some fault =>
    set (noted command directory w)
    Action.fail fault
  | none =>
    match w.scripts with
    | [] =>
      set (noted command directory w)
      Action.fail (.os .noEntry (command.headD "") none)
    | script :: rest =>
      set (after script { noted command directory w with scripts := rest })
      Action.ofExcept (outcomeOf script)

end Downlevel.Process

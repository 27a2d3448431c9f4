import Downlevel.Data.Field
import Downlevel.Version
import Downlevel.World
/-!
# The host runtime

The Java runtime that a build runs on: the one named by the environment, or else the installation
around the launcher that the command search finds. Its version stands in the release file of the
installation.
-/
namespace Downlevel

/-- The Java runtime that is there by default. -/
structure Host where
  home : Option Path := none
  version : Option String := none
  deriving DecidableEq, Repr

namespace Host

/-- Reads a host runtime. -/
def read (fs : Fields) : Reading Host :=
  ((Reading.value mk).seq (fs.optional "java_home" none (Field.optional Field.path))).seq
    (fs.optional "version" none (Field.optional Field.text))

/-- The major version of the host, if it is known. -/
def major? (h : Host) : Except Failure (Option Nat) :=
  match h.version with
  | none => .ok none
  | some v => Version.major? v

/-- Whether the host is known to have at least a major version. -/
def isAtLeast (h : Host) (n : Int) : Except Failure Bool :=
  match h.major? with
  | .error e => .error e
  | .ok none => .ok false
  | .ok (some m) => .ok (n ≤ Int.ofNat m)

/-- The text before and after the first equals sign. -/
def assignment? (line : List Char) : Option (List Char × List Char) :=
  let front := line.takeWhile (· ≠ '=')
  match line.drop front.length with
  | '=' :: value => some (front, value)
  | _ => none

/-- Drops the quotes at both ends. -/
def unquoted (cs : List Char) : List Char :=
  ((cs.dropWhile (· = '"')).reverse.dropWhile (· = '"')).reverse

/-- The version in the text of a release file: the value of the first line that sets it. -/
def releaseVersion? (text : List Char) : Option String :=
  (Text.splitLines (Text.unifyNewlines text)).findSome? fun line =>
    match assignment? line with
    | some (key, value) =>
      if Text.strip key = "JAVA_VERSION".toList then
        some (String.ofList (unquoted (Text.strip value)))
      else none
    | none => none

/-- The version in the release file of an installation, if there is one. -/
def installedVersion? (w : World) (home : Path) : Option String :=
  match w.tree.read w.cwd (home.child "release") with
  | .ok bytes => releaseVersion? (Text.decodeLossy bytes)
  | .error _ => none

/-- The version of an installation, if there is an installation. -/
def versionOf? (w : World) (home : Option Path) : Option String :=
  home.bind (installedVersion? w)

/-- The directories in which a command is searched when nothing names any. -/
def standardSearchPath : String := "/bin:/usr/bin"

/-- The first executable file with a name in the directories of a search path. -/
def search? (w : World) (command searchPath : String) : Option Path :=
  if searchPath = "" then none
  else (Text.parts ':' searchPath).findSome? fun dir =>
    let p := (Path.ofString dir).child command
    if w.tree.isExecutable w.cwd p then some p else none

/-- The home of the host runtime as an environment has it. The search path is the one of the
environment, then the one of the world, then the standard one. -/
def home? (w : World) (environment : List (String × String)) : Option Path :=
  match environment.lookup "JAVA_HOME" with
  | some home => if home = "" then searched else some (Path.ofString home)
  | none => searched
where
  /-- The home of the launcher that the search finds. -/
  searched : Option Path :=
    let searchPath := ((environment.lookup "PATH").or (w.named? "PATH")).getD standardSearchPath
    (search? w "java" searchPath).map fun found =>
      (w.tree.resolved w.cwd found).parent.parent

/-- The host runtime as an environment has it. -/
def detect (w : World) (environment : List (String × String)) : Host :=
  let home := home? w environment
  ⟨home, versionOf? w home⟩

end Host

end Downlevel

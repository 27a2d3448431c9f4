import Downlevel.FileTree
import Downlevel.Libraries
import Downlevel.Log.Handler
/-!
# The machine that a program runs on

What a program finds and does not change: its libraries, the time zone, the homes of users, where
temporary files go, where it is installed, what keeps a process from being started.
-/
namespace Downlevel

/-- The home directories that the system knows, of the user and of the users by name. -/
structure Homes where
  own : Option String := some "/root"
  named : List (String × String) := [("root", "/root")]
  deriving DecidableEq, Repr

/-- The machine that a program runs on. -/
structure Machine where
  libraries : Libraries := .standard
  /-- How many seconds local time is ahead at a time. -/
  zone : Float → Int := fun _ => 0
  homes : Homes := {}
  /-- The directory of temporary files, the first of the usual ones that took a file. -/
  temporaryDirectory : Option Path := some ⟨.root, ["tmp"]⟩
  /-- The configuration file of the installation. -/
  installedFile : Path := ⟨.root, ["app", "config", "default.yaml"]⟩
  /-- What keeps a command from being started in a directory, if anything does. -/
  startFault : FileTree → Place → List String → Option Path → Option Fault := fun _ _ _ _ => none
  /-- What is printed of a record that a handler of the log could not write. -/
  logFault : Log.Record → String := fun _ => ""

end Downlevel

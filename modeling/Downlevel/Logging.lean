import Downlevel.Settings.Loading
/-!
# Setting up the log

The log is set up as a whole: its level and its handlers replace all earlier ones. Records go to the
error stream in a pattern, or to a display, and to the end of a file besides if one is named.
-/
namespace Downlevel.Logging

/-- The name under which records of a logger appear. -/
def shownName (logger : String) : String :=
  if logger = "" then "root" else logger

/-- The fault of a pattern without fields. -/
def patternFault (pattern : String) : Fault :=
  .foreign "ValueError" ("Invalid format '" ++ pattern ++ "' for '%' style")

/-- The pattern of settings; without one it is the message alone. -/
def patternOf (s : LoggingSettings) : String :=
  if s.pattern = "" then "%(message)s" else s.pattern

/-- The handler for people who watch. -/
def watcher (s : LoggingSettings) : Action Log.Handler :=
  if s.rich then return .display
  else if Log.accepted (patternOf s).toList then return .stream (patternOf s)
  else Action.fail (patternFault s.pattern)

/-- Adds a handler. -/
def add (h : Log.Handler) : Action Unit :=
  modify fun w => { w with log := { w.log with handlers := w.log.handlers ++ [h] } }

/-- Opens the log file, with the directories on the way to it. -/
def openFile (p : Path) (level : Level) : Action Log.Handler := do
  Files.makeDirectoriesOf p.parent
  let cwd ← Action.view fun w => FileTree.pathOf w.cwd
  let id ← Files.openForAppending (p.under cwd).normalized
  return .file id level

/-- Sets up the log. A failure leaves what was set up before it. -/
def setUp (s : LoggingSettings) : Action Unit := do
  modify fun w => { w with log := ⟨s.level, []⟩ }
  add (← watcher s)
  match s.file with
  | some p => add (← openFile p s.level)
  | none => return

/-- Sets up the log from given settings, or else from those of the program. -/
def setUpFrom (given : Option LoggingSettings) : Action Unit := do
  match given with
  | some s => setUp s
  | none => setUp (← Settings.current).logging

end Downlevel.Logging

import Downlevel.Log.Pattern
/-!
# Handlers of log records

The records at or above the level of the log go to its handlers: to the error stream in a pattern,
to a display of its own, or to the end of an open file. A handler for a file has a level besides.
-/
namespace Downlevel.Log

/-- A receiver of log records. -/
inductive Handler where
  | stream (pattern : String)
  | display
  | file (id : Nat) (level : Level)
  deriving DecidableEq, Repr

/-- The printed name of a kind of handler. -/
def Handler.name : Handler → String
  | stream _ => "StreamHandler"
  | display => "RichHandler"
  | file _ _ => "FileHandler"

/-- The printed name of the level of a handler. -/
def Handler.levelName : Handler → String
  | file _ level => level.name
  | _ => "NOTSET"

/-- The pattern of lines in log files. -/
def filePattern : String :=
  "%(asctime)s - %(name)s - %(levelname)s - %(message)s"

/-- The log of a program: the least level that is recorded, and the handlers. -/
structure Setup where
  level : Level
  handlers : List Handler
  deriving DecidableEq, Repr

/-- The identities of the files that are open for the log. -/
def Setup.fileIds (s : Setup) : List Nat :=
  s.handlers.filterMap fun h => match h with
    | .file id _ => some id
    | _ => none

/-- The greatest identity of a file that is open for the log. -/
def Setup.lastId (s : Setup) : Nat :=
  s.fileIds.foldl max 0

/-- Whether a level is recorded. -/
def Setup.records (s : Setup) (l : Level) : Bool :=
  s.level.number ≤ l.number

/-- The family of the loggers of this library. -/
def familyName : String :=
  "retrolambda_runner"

/-- Whether a logger belongs to the family. -/
def inFamily (logger : String) : Bool :=
  logger = familyName || (familyName ++ ".").toList.isPrefixOf logger.toList

end Downlevel.Log

/-!
# Levels of log records
-/
namespace Downlevel

/-- How urgent a log record is. -/
inductive Level where
  | debug
  | info
  | warning
  | error
  | critical
  deriving DecidableEq, Repr

namespace Level

/-- The rank of a level. -/
def number : Level → Nat
  | debug => 10
  | info => 20
  | warning => 30
  | error => 40
  | critical => 50

/-- The printed name of a level. -/
def name : Level → String
  | debug => "DEBUG"
  | info => "INFO"
  | warning => "WARNING"
  | error => "ERROR"
  | critical => "CRITICAL"

/-- All levels, the least urgent first. -/
def all : List Level :=
  [debug, info, warning, error, critical]

/-- The level with a printed name. -/
def ofName? (s : String) : Option Level :=
  all.find? fun l => l.name == s

end Level

end Downlevel

import Downlevel.Data.Field
import Downlevel.Text.Case
/-!
# Where settings come from

The value of a setting is the one that is given, or else the one of its variable in the environment,
or else the one of its variable in the file of variables in the working directory, or else its default.
Letter case does not matter in the names of variables; of several spellings the last one counts.
-/
namespace Downlevel

/-- The variables that settings are read from. -/
structure Variables where
  environment : List (String × String) := []
  file : List (String × Option String) := []
  deriving DecidableEq, Repr

namespace Variables

/-- The value of the last variable with a name, letter case apart. -/
def lastNamed? (name : String) (vs : List (String × α)) : Option α :=
  (vs.reverse.find? fun v => Text.lowercase v.1 == name).map Prod.snd

/-- The value of a variable in the environment. -/
def inEnvironment? (vs : Variables) (name : String) : Option String :=
  lastNamed? name vs.environment

/-- The value of a variable in the file of variables. -/
def inFile? (vs : Variables) (name : String) : Option String :=
  (lastNamed? name vs.file).join

/-- The value of a variable: the environment comes before the file. -/
def value? (vs : Variables) (name : String) : Option String :=
  (vs.inEnvironment? name).or (vs.inFile? name)

end Variables

/-- The fields that are given for a section, and the variables behind them. The names of the section's
variables start with its family name. -/
structure SettingsSource where
  given : Fields := []
  bindings : Variables := {}
  family : String

namespace SettingsSource

/-- The value that is given for a field: under its exact name, or else under another spelling. -/
def given? (s : SettingsSource) (name : String) : Option Data :=
  (Data.field? name s.given).or
    ((s.given.find? fun e => match e.1 with
      | .text key => Text.lowercase key == name
      | _ => false).map Prod.snd)

/-- The value of a field before it is read, if anything sets it. -/
def value? (s : SettingsSource) (name : String) : Option Data :=
  (s.given? name).or ((s.bindings.value? (s.family ++ name)).map .text)

end SettingsSource

end Downlevel

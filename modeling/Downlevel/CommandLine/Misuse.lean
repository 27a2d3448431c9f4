import Downlevel.CommandLine.Command
import Downlevel.Text.Quoted
import Downlevel.Text.Similar
/-!
# Misuse of the command line

What can be wrong with a command line, and what is said of it.
-/
namespace Downlevel.CommandLine

/-- What is wrong with the path that follows an option. -/
inductive PathMisuse where
  | missingFile
  | directory
  | file
  deriving DecidableEq, Repr

/-- What is wrong with a command line. -/
inductive Misuse where
  | noArguments
  | missingCommand
  | unknownCommand (name : String)
  | unknownOption (spelling : String) (similar : List String)
  | missingValue (spelling : String)
  | unwantedValue (spelling : String)
  | badPath (option : Switch) (path : String) (reason : PathMisuse)
  | extraArguments (arguments : List String)
  deriving DecidableEq, Repr

namespace Misuse

/-- The question after similar spellings. -/
def suggestion : List String → String
  | [] => ""
  | [s] => " Did you mean " ++ Text.quoted s ++ "?"
  | ss => " (Did you mean one of: " ++ ", ".intercalate (ss.map Text.quoted) ++ "?)"

/-- What is said of a path. -/
def ofPath (path : String) : PathMisuse → String
  | .missingFile => "File " ++ Text.quoted path ++ " does not exist."
  | .directory => "File " ++ Text.quoted path ++ " is a directory."
  | .file => "Directory " ++ Text.quoted path ++ " is a file."

/-- What is said of a misuse. -/
def message : Misuse → String
  | noArguments => ""
  | missingCommand => "Missing command."
  | unknownCommand name => "No such command " ++ Text.quoted name ++ "."
      ++ suggestion (Text.similarTo name (Command.all.map Command.name))
  | unknownOption spelling similar => "No such option " ++ Text.quoted spelling ++ "."
      ++ suggestion similar
  | missingValue spelling => "Option " ++ Text.quoted spelling ++ " requires an argument."
  | unwantedValue spelling => "Option " ++ Text.quoted spelling ++ " does not take a value."
  | badPath option path reason => "Invalid value for "
      ++ " / ".intercalate (option.spellings.map fun s => "'" ++ s ++ "'") ++ ": "
      ++ ofPath path reason
  | extraArguments arguments => "Got unexpected extra argument"
      ++ (if arguments.length = 1 then "" else "s") ++ " (" ++ " ".intercalate arguments ++ ")"

/-- Whether the usage is shown with a misuse. -/
def showsUsage : Misuse → Bool
  | missingValue _ => false
  | unwantedValue _ => false
  | _ => true

/-- What is printed for a misuse. Without any argument the help is. -/
def report (scope : Scope) : Misuse → String
  | noArguments => scope.help
  | m =>
    (if m.showsUsage then
      scope.usage ++ "\nTry " ++ "'" ++ scope.path ++ " --help' for help.\n\n" else "")
      ++ "Error: " ++ m.message ++ "\n"

end Misuse

end Downlevel.CommandLine

import Downlevel.CommandLine.Switch
import Downlevel.Project
import Downlevel.Text.Wrap
/-!
# Commands and their help

The program has a few options of its own, and commands with options of theirs. The help lists both.
-/
namespace Downlevel.CommandLine

/-- The name of the program. -/
def programName : String := "retrolambda-runner"

/-- A command of the program. -/
inductive Command where
  | process (goal : Goal)
  | resolveJava
  deriving DecidableEq, Repr

namespace Command

/-- All commands. -/
def all : List Command :=
  [.process .main, .process .test, .resolveJava]

/-- The name of a command. -/
def name : Command → String
  | process goal => goal.name
  | resolveJava => "resolve-java"

/-- The command of a name. -/
def ofName? (s : String) : Option Command :=
  all.find? fun c => c.name = s

/-- What the help says of a command. -/
def description : Command → String
  | process .main => "Process the main classes (target/classes by default)."
  | process .test => "Process the test classes (target/test-classes by default)."
  | resolveJava => "Show which Java runtime a forked run would use."

/-- An example of a command. -/
def example? : Command → Option String
  | process .main =>
    some "Example:     retrolambda-runner process-main --target 1.7 -cp lib/guava.jar"
  | _ => none

/-- The options of a command. -/
def switches : Command → List Switch
  | process _ => [.projectDir, .buildDir, .classpath, .java8Home, .skip, .target, .defaultMethods,
      .javacHacks, .quiet, .fork, .fixJava8Classpath, .inputDir, .outputDir, .help]
  | resolveJava => [.javaOverride, .help]

end Command

/-- What options belong to: the program as a whole, or a command. -/
inductive Scope where
  | program
  | command (c : Command)
  deriving DecidableEq, Repr

namespace Scope

/-- The words that lead to a scope. -/
def path : Scope → String
  | program => programName
  | command c => programName ++ " " ++ c.name

/-- How a scope is used. -/
def usage : Scope → String
  | program => "Usage: " ++ programName ++ " [OPTIONS] COMMAND [ARGS]..."
  | command c => "Usage: " ++ (command c).path ++ " [OPTIONS]"

/-- The options of a scope. -/
def switches : Scope → List Switch
  | program => [.version, .config, .verbose, .help]
  | command c => c.switches

/-- What the help says of a scope, a text a paragraph. -/
def paragraphs : Scope → List String
  | program => [programName ++ " - backport Java 8 bytecode with Retrolambda."]
  | command c => c.description :: c.example?.toList

/-- The spellings of an option in the help, the short ones first, and the word for its value. -/
def heading (s : Switch) : String :=
  let isDoubled (x : String) : Bool := x.startsWith "--"
  let ordered := (s.spellings.filter fun x => !isDoubled x) ++ s.spellings.filter isDoubled
  ", ".intercalate ordered ++ match s.operand? with
    | some o => " " ++ o.word
    | none => ""

/-- What is said of an option, with the value that it has when it is not given. -/
def remark (s : Switch) : String :=
  s.description ++ match s.default? with
    | some d => "  [default: " ++ d ++ "]"
    | none => ""

/-- The columns of a line of help. -/
def helpWidth : Nat := 80

/-- The lines of a list of terms, each with what is said of it in a second column. -/
def definitions (rows : List (String × String)) : List String :=
  let first := rows.foldl (fun n r => max n r.1.length) 0 + 2
  rows.flatMap fun r =>
    let texts := (Text.wrapped .fold (helpWidth - first - 2) r.2.toList).map Text.stripRight
    let margins := (Text.fitted first r.1.toList) :: List.replicate texts.length
      (List.replicate first ' ')
    (margins.zip texts).map fun m => String.ofList (' ' :: ' ' :: m.1 ++ m.2)

/-- The help of a scope. -/
def help (scope : Scope) : String :=
  let commands := match scope with
    | program => ["", "Commands:"] ++ definitions (Command.all.map fun c => (c.name, c.description))
    | command _ => []
  "\n".intercalate ([scope.usage] ++ scope.paragraphs.flatMap (fun p => ["", "  " ++ p])
    ++ ["", "Options:"] ++ definitions (scope.switches.map fun s => (heading s, remark s))
    ++ commands) ++ "\n"

end Scope

end Downlevel.CommandLine

import Downlevel.Host
import Downlevel.Project
/-!
# Parameters and configurations

The parameters of a run as a user gives them, and the configuration that a run works with. Validation
turns the one into the other: the target must be known, a host older than Java 8 forces a fork, and
every directory becomes absolute.
-/
namespace Downlevel

/-- The targets and the class file versions that they stand for. -/
def targetVersions : List (String × Nat) :=
  [("1.5", 49), ("1.6", 50), ("1.7", 51), ("1.8", 52)]

/-- The major version that a host needs to process classes itself. -/
def requiredMajor : Nat := 8

/-- The parameters of a run. The target is not checked until the run is validated. -/
structure Parameters where
  skip : Bool := false
  target : String := "1.7"
  defaultMethods : Bool := false
  javacHacks : Bool := false
  quiet : Bool := false
  fork : Bool := false
  fixJava8Classpath : Bool := false
  java8Home : Option Path := none
  inputDir : Option Path := none
  outputDir : Option Path := none
  classpath : Option (List String) := none
  deriving DecidableEq, Repr

/-- Reads parameters. -/
def Parameters.read (fs : Fields) : Reading Parameters :=
  let flag (name : String) : Reading Bool := fs.optional name false Field.bool
  let dir (name : String) : Reading (Option Path) := fs.optional name none (Field.optional Field.path)
  (((((((((((Reading.value Parameters.mk).seq (flag "skip")).seq
    (fs.optional "target" "1.7" Field.text)).seq (flag "default_methods")).seq
    (flag "javac_hacks")).seq (flag "quiet")).seq (flag "fork")).seq
    (flag "fix_java8_classpath")).seq (dir "java8home")).seq (dir "input_dir")).seq
    (dir "output_dir")).seq
    (fs.optional "classpath" none (Field.optional (Field.list Field.text)))

/-- The configuration of a run. -/
structure BuildConfig where
  target : String
  bytecodeVersion : Int
  defaultMethods : Bool := false
  quiet : Bool := false
  javacHacks : Bool := false
  fixJava8Classpath : Bool := false
  inputDir : Path
  outputDir : Path
  classpath : List String := []
  fork : Bool := false
  java8Home : Option Path := none
  deriving DecidableEq, Repr

namespace BuildConfig

/-- Reads a configuration. -/
def read (fs : Fields) : Reading BuildConfig :=
  let flag (name : String) : Reading Bool := fs.optional name false Field.bool
  (((((((((((Reading.value mk).seq (fs.required "target" Field.text)).seq
    (fs.required "bytecode_version" Field.int)).seq (flag "default_methods")).seq
    (flag "quiet")).seq (flag "javac_hacks")).seq (flag "fix_java8_classpath")).seq
    (fs.required "input_dir" Field.path)).seq (fs.required "output_dir" Field.path)).seq
    (fs.optional "classpath" [] (Field.row Field.text))).seq (flag "fork")).seq
    (fs.optional "java8home" none (Field.optional Field.path))

/-- The refusal to change a configuration. -/
def frozen (name : String) : Failure :=
  ⟨.invalid "BuildConfig" [⟨[.name name], "frozen_instance"⟩], []⟩

/-- The prefix of the property names. -/
def propertyPrefix : String := "net.orfjackal.retrolambda."

/-- The name of the property that holds the classpath. -/
def classpathKey : String := propertyPrefix ++ "classpath"

/-- The name of the property that names a classpath file. -/
def classpathFileKey : String := propertyPrefix ++ "classpathFile"

/-- The spelling of a truth value in a property. -/
def flagText (b : Bool) : String :=
  if b then "true" else "false"

/-- The classpath as one text. -/
def classpathText (c : BuildConfig) : String :=
  ":".intercalate c.classpath

/-- The properties of a run in their order. -/
def properties (c : BuildConfig) : List (String × String) :=
  [(propertyPrefix ++ "bytecodeVersion", toString c.bytecodeVersion),
   (propertyPrefix ++ "defaultMethods", flagText c.defaultMethods),
   (propertyPrefix ++ "quiet", flagText c.quiet),
   (propertyPrefix ++ "inputDir", c.inputDir.toString),
   (propertyPrefix ++ "outputDir", c.outputDir.toString),
   (classpathKey, c.classpathText),
   (propertyPrefix ++ "javacHacks", flagText c.javacHacks),
   (propertyPrefix ++ "fixJava8Classpath", flagText c.fixJava8Classpath)]

end BuildConfig

namespace Validation

/-- The logger of validation. -/
def logger : String := "retrolambda_runner.process.validation"

/-- The class file version of a target. -/
def targetVersion (target : String) : Except Failure Nat :=
  match targetVersions.lookup target with
  | some n => .ok n
  | none => .error (.ofRun (.about .parameters
      ("Unrecognized target '" ++ target ++ "'. Possible values are "
        ++ ", ".intercalate (targetVersions.map Prod.fst)) (some (.text "target"))))

/-- Whether a run is forked: when it is asked for, or when the host is too old. -/
def resolveFork (fork : Bool) (host : Host) : Action Bool := do
  if fork then return true
  else if ← Action.ofExcept (host.isAtLeast (Int.ofNat requiredMajor)) then return false
  else
    logAs logger .warning ("Host JVM is not running under Java " ++ toString requiredMajor
      ++ " - forced to fork the process")
    return true

/-- The configuration of a run of a goal. -/
def validate (parameters : Parameters) (project : Project) (host : Host) (goal : Goal) :
    Action BuildConfig := do
  let bytecodeVersion ← Action.ofExcept (targetVersion parameters.target)
  let fork ← resolveFork parameters.fork host
  let inputDir := parameters.inputDir.getD (project.defaultInputDir goal)
  let outputDir := parameters.outputDir.getD inputDir
  let cwd ← Action.view fun w => FileTree.pathOf w.cwd
  return {
    target := parameters.target
    bytecodeVersion := Int.ofNat bytecodeVersion
    defaultMethods := parameters.defaultMethods
    quiet := parameters.quiet
    javacHacks := parameters.javacHacks
    fixJava8Classpath := parameters.fixJava8Classpath
    inputDir := inputDir.under cwd
    outputDir := outputDir.under cwd
    classpath := parameters.classpath.getD (project.defaultClasspath goal)
    fork
    java8Home := parameters.java8Home }

end Validation

end Downlevel

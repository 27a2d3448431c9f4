/-!
# Options of the command line

An option has one or more spellings. It stands alone, or a value follows it.
-/
namespace Downlevel.CommandLine

/-- What value follows an option. -/
inductive Operand where
  | text
  /-- A file that is there. -/
  | file
  /-- A directory, or a place where nothing is yet. -/
  | directory
  deriving DecidableEq, Repr

/-- The word for a value in the help. -/
def Operand.word : Operand → String
  | text => "TEXT"
  | file => "FILE"
  | directory => "DIRECTORY"

/-- An option. -/
inductive Switch where
  | version
  | config
  | verbose
  | projectDir
  | buildDir
  | classpath
  | java8Home
  | javaOverride
  | skip
  | target
  | defaultMethods
  | javacHacks
  | quiet
  | fork
  | fixJava8Classpath
  | inputDir
  | outputDir
  | help
  deriving DecidableEq, Repr

namespace Switch

/-- The spellings of an option. -/
def spellings : Switch → List String
  | version => ["--version"]
  | config => ["--config", "-c"]
  | verbose => ["--verbose", "-v"]
  | projectDir => ["--project-dir"]
  | buildDir => ["--build-dir"]
  | classpath => ["--classpath", "-cp"]
  | java8Home => ["--java8home"]
  | javaOverride => ["--java8home"]
  | skip => ["--skip"]
  | target => ["--target", "-t"]
  | defaultMethods => ["--default-methods"]
  | javacHacks => ["--javac-hacks"]
  | quiet => ["--quiet", "-q"]
  | fork => ["--fork"]
  | fixJava8Classpath => ["--fix-java8-classpath"]
  | inputDir => ["--input-dir"]
  | outputDir => ["--output-dir"]
  | help => ["--help"]

/-- The value that follows an option. -/
def operand? : Switch → Option Operand
  | config => some .file
  | projectDir => some .directory
  | buildDir => some .directory
  | classpath => some .text
  | java8Home => some .directory
  | javaOverride => some .directory
  | target => some .text
  | inputDir => some .directory
  | outputDir => some .directory
  | _ => none

/-- The value of an option that is not given. -/
def default? : Switch → Option String
  | projectDir => some "."
  | target => some "1.7"
  | _ => none

/-- What the help says of an option. -/
def description : Switch → String
  | version => "Show the version and exit."
  | config => "YAML configuration file"
  | verbose => "Enable debug logging"
  | projectDir => "Project root directory"
  | buildDir => "Build output directory"
  | classpath => "Classpath entry (repeatable)"
  | java8Home => "JDK home for forked runs"
  | javaOverride => "JDK home override"
  | skip => "Skip execution"
  | target => "Targeted Java version"
  | defaultMethods => "Backport default and static interface methods"
  | javacHacks => "Apply experimental javac workarounds"
  | quiet => "Reduce Retrolambda logging"
  | fork => "Run Retrolambda in a separate JVM. Without it, a Java 8 host calls the in-process "
      ++ "entry point (runner.embedded_entry_point), which must be importable"
  | fixJava8Classpath => "Prefer '/classes-java8' classpath entries"
  | inputDir => "Directory with classes to process"
  | outputDir => "Directory to write processed classes"
  | help => "Show this message and exit."

/-- Whether a spelling is a single letter after a dash. Such options may be written together. -/
def isShort (spelling : String) : Bool :=
  spelling.length = 2

/-- The long spellings of an option. -/
def longSpellings (s : Switch) : List String :=
  s.spellings.filter fun x => !isShort x

end Switch

end Downlevel.CommandLine

import Downlevel.Data.Field
import Downlevel.World
/-!
# The layout of a project

Where a build keeps its classes, and the classpath of each of the two goals. Relative directories lie
in the base directory.
-/
namespace Downlevel

/-- Which classes are processed. -/
inductive Goal where
  | main
  | test
  deriving DecidableEq, Repr

/-- The name of a goal. -/
def Goal.name : Goal → String
  | .main => "process-main"
  | .test => "process-test"

/-- The goal with a name. -/
def Goal.ofName (s : String) : Except Failure Goal :=
  if s = Goal.main.name then .ok .main
  else if s = Goal.test.name then .ok .test
  else .error ⟨.foreign "ValueError" (Text.quoted s ++ " is not a valid Goal"), []⟩

/-- The directories and classpaths of a project. -/
structure Project where
  baseDir : Path
  buildDirectory : Option Path := none
  outputDirectory : Option Path := none
  testOutputDirectory : Option Path := none
  compileClasspath : List String := []
  testClasspath : List String := []
  deriving DecidableEq, Repr

namespace Project

/-- Reads a project in a working directory. -/
def read (cwd : Place) (fs : Fields) : Reading Project :=
  ((((((Reading.value mk).seq
    (fs.optional "base_dir" (FileTree.pathOf cwd) Field.path)).seq
    (fs.optional "build_directory" none (Field.optional Field.path))).seq
    (fs.optional "output_directory" none (Field.optional Field.path))).seq
    (fs.optional "test_output_directory" none (Field.optional Field.path))).seq
    (fs.optional "compile_classpath" [] (Field.list Field.text))).seq
    (fs.optional "test_classpath" [] (Field.list Field.text))

/-- The build directory. -/
def buildDir (p : Project) : Path :=
  (p.buildDirectory.getD (Path.ofString "target")).under p.baseDir

/-- The directory of the main classes. -/
def classesDir (p : Project) : Path :=
  match p.outputDirectory with
  | some d => d.under p.baseDir
  | none => p.buildDir.child "classes"

/-- The directory of the test classes. -/
def testClassesDir (p : Project) : Path :=
  match p.testOutputDirectory with
  | some d => d.under p.baseDir
  | none => p.buildDir.child "test-classes"

/-- The directory that a goal processes by default. -/
def defaultInputDir (p : Project) : Goal → Path
  | .main => p.classesDir
  | .test => p.testClassesDir

/-- The classpath that a goal uses by default. -/
def defaultClasspath (p : Project) : Goal → List String
  | .main => p.compileClasspath
  | .test => p.testClasspath

end Project

end Downlevel

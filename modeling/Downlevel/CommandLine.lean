import Downlevel.CommandLine.Reader
import Downlevel.Runner
/-!
# The command line

A call of the program reads its own options, then the settings, then the options of a command, and
carries the command out. It ends early when the reading of the command line ends it, and when a step
fails. How it ends decides its exit code and what it prints.
-/
namespace Downlevel.CommandLine

/-- A reason for which a call ends before its end. -/
inductive Ending where
  /-- The reading of the command line ended the call. -/
  | ended (outcome : Outcome)
  /-- A fault of a run, shown under a title. -/
  | reported (title : String) (failure : Failure)
  /-- Any other failure. -/
  | broken (failure : Failure)

/-- The outcome of a call that ended early. -/
def Outcome.ofEnding (t : Toolkit) : Ending → Outcome
  | .ended outcome => outcome
  | .reported title f => t.closing 1 (t.renderer.message .failure title f.chainText)
  | .broken f => t.failed f

/-- A step of a call. -/
abbrev Call (α : Type) : Type :=
  ExceptT Ending (StateM World) α

namespace Call

/-- A step whose failures end the call in the given way. -/
def ofAction (a : Action α) (end_ : Failure → Ending) : Call α := fun w =>
  match a.runIn w with
  | (.ok x, w') => (.ok x, w')
  | (.error f, w') => (.error (end_ f), w')

/-- A step whose run faults are shown under a title. -/
def reporting (title : String) (a : Action α) : Call α :=
  ofAction a fun f => if f.fault.isRun then .reported title f else .broken f

/-- A step none of whose failures is handled. -/
def plain (a : Action α) : Call α :=
  ofAction a .broken

/-- A look at the world that may end the call. -/
def reading (f : World → Except Outcome α) : Call α := fun w =>
  match f w with
  | .ok x => (.ok x, w)
  | .error outcome => (.error (.ended outcome), w)

/-- Runs a call in a world. What it comes to is shown. -/
def runIn (t : Toolkit) (c : Call Display.Printable) (w : World) : Outcome × World :=
  match c w with
  | (.ok p, w') => (t.closing 0 p, w')
  | (.error e, w') => (Outcome.ofEnding t e, w')

end Call

/-- The settings that a call works with. -/
def settings (line : Line) : Action Settings :=
  match line.value? .config with
  | some file => Settings.ofFile (Path.ofString file)
  | none => Settings.current

/-- The logging settings of a call. -/
def loggingOf (line : Line) (s : Settings) : LoggingSettings :=
  if line.has .verbose then { s.logging with level := .debug } else s.logging

/-- The path that was given for an option; an empty text is none. -/
def pathOf? (line : Line) (s : Switch) : Option Path :=
  ((line.value? s).filter (· ≠ "")).map Path.ofString

/-- The project that a command line describes: its classpath is that of the goal. -/
def projectOf (cwd : Place) (goal : Goal) (line : Line) : Project where
  baseDir := (Path.ofString ((line.value? .projectDir).getD "")).under (FileTree.pathOf cwd)
  buildDirectory := pathOf? line .buildDir
  compileClasspath := if goal = .main then line.values .classpath else []
  testClasspath := if goal = .test then line.values .classpath else []

/-- The parameters that a command line gives. -/
def parametersOf (line : Line) : Parameters where
  skip := line.has .skip
  target := (line.value? .target).getD ""
  defaultMethods := line.has .defaultMethods
  javacHacks := line.has .javacHacks
  quiet := line.has .quiet
  fork := line.has .fork
  fixJava8Classpath := line.has .fixJava8Classpath
  java8Home := pathOf? line .java8Home
  inputDir := pathOf? line .inputDir
  outputDir := pathOf? line .outputDir

/-- Runs a step of a new runner for a project. -/
def withRunner (project : Project) (s : Settings) (step : Runner.Step α) : Action α := do
  let runner ← Runner.create project (some s)
  fun w =>
    match step.runOn runner w with
    | ((r, _), w') => (r, w')

/-- Processes the classes of a project. -/
def process (t : Toolkit) (goal : Goal) (s : Settings) (line : Line) : Call Display.Printable := do
  let cwd := (← get).cwd
  let result ← Call.reporting "Retrolambda Failed"
    (withRunner (projectOf cwd goal line) s (Runner.execute (parametersOf line) goal))
  return t.renderer.result result

/-- Shows the Java runtime that a forked run would use. -/
def showJava (t : Toolkit) (s : Settings) (line : Line) : Call Display.Printable := do
  let cwd := (← get).cwd
  let parameters : Parameters := { java8Home := pathOf? line .javaOverride }
  let candidate ← Call.reporting "Resolution Failed"
    (withRunner { baseDir := FileTree.pathOf cwd } s (Runner.resolveJava parameters))
  return t.renderer.runtime candidate

/-- Carries out a command. -/
def carryOut (t : Toolkit) (c : Command) (s : Settings) (line : Line) : Call Display.Printable :=
  match c with
  | .process goal => process t goal s line
  | .resolveJava => showJava t s line

/-- A call of the program: what it shows if it does not end early. -/
def call (t : Toolkit) (words : List String) : Call Display.Printable := do
  let (top, c, rest) ← Call.reading fun w => t.program w words
  let s ← Call.reporting "Configuration Error" (settings top)
  Call.plain (Logging.setUp (loggingOf top s))
  carryOut t c s (← Call.reading fun w => t.command w c rest)

/-- Runs the program with the words of a command line and a toolkit. -/
def runWith (t : Toolkit) (words : List String) (w : World) : Outcome × World :=
  Call.runIn t (call t words) w

/-- Runs the program with the words of a command line. -/
def run (words : List String) (w : World) : Outcome × World :=
  runWith .standard words w

end Downlevel.CommandLine

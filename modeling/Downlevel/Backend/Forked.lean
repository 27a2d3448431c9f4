import Downlevel.Artifact
import Downlevel.ClasspathFile
import Downlevel.Parameters
import Downlevel.Result
/-!
# Processing in a Java process

A forked run gets the jar, writes the classpath into a temporary file, and starts Java with the jar as
agent and program. The lines of the process are logged. The Java command may be worked out as late as
it is needed, and is worked out once.
-/
namespace Downlevel.Forked

/-- The logger of forked runs. -/
def logger : String := "retrolambda_runner.process.backends.forked"

/-- The name of the backend. -/
def name : String := "forked"

/-- The command line of a forked run. -/
structure Plan where
  executable : String
  arguments : List String
  classpathFile : Path
  jar : Path
  deriving DecidableEq, Repr

/-- The whole command line. -/
def Plan.command (p : Plan) : List String :=
  p.executable :: p.arguments

/-- A property as an argument. The classpath is given by its file, so that the line stays short. -/
def propertyArgument (classpathFile : Path) (property : String × String) : String :=
  if property.1 = BuildConfig.classpathKey then
    "-D" ++ BuildConfig.classpathFileKey ++ "=" ++ classpathFile.toString
  else "-D" ++ property.1 ++ "=" ++ property.2

/-- Plans a forked run. -/
def plan (config : BuildConfig) (java : String) (jar classpathFile : Path) : Plan where
  executable := java
  arguments := config.properties.map (propertyArgument classpathFile)
    ++ ["-javaagent:" ++ jar.toString, "-jar", jar.toString]
  classpathFile
  jar

/-- A Java command: known, or worked out when it is needed. -/
inductive JavaCommand where
  | known (command : String)
  | deferred (find : Action String)

/-- What a forked run works with. -/
structure Backend where
  acquirer : Acquirer
  java : JavaCommand
  version : String
  temporaryDirectory : Option Path := none

/-- The steps of a run that may settle the Java command of its backend. -/
abbrev BackendAction (α : Type) : Type :=
  ActionOn Backend α

/-- The Java command; once worked out it is kept. -/
def javaCommand : BackendAction String := fun b w =>
  match b.java with
  | .known command => ((.ok command, b), w)
  | .deferred find =>
    match find.runIn w with
    | (.ok command, w') => ((.ok command, { b with java := .known command }), w')
    | (.error e, w') => ((.error e, b), w')

/-- Logs each line of a text. -/
def logLines (level : Level) (text : String) : Action Unit :=
  (Text.lines text).forM (logAs logger level)

/-- A way to run a command to its end. -/
abbrev Launcher : Type :=
  List String → Action Process.Outcome

/-- Starts the planned process and waits for its end. -/
def execute (launch : Launcher) (p : Plan) : Action Result := do
  let command := p.command
  logAs logger .debug ("Executing: " ++ " ".intercalate command)
  let start ← Action.view (·.clock)
  let outcome ← (launch command).orFail Fault.isOs fun e =>
    .because (.ofProcess ("Failed to start " ++ p.executable ++ ": " ++ e.fault.text) { command }) e
  let stop ← Action.view (·.clock)
  logLines .info outcome.stdout
  logLines .warning outcome.stderr
  if outcome.returnCode ≠ 0 then
    throw (.ofRun (.ofProcess ("Retrolambda failed with exit code " ++ toString outcome.returnCode)
      ⟨command, some outcome.returnCode, outcome.stdout, outcome.stderr⟩))
  return {
    backend := some name
    command := some command
    returnCode := some outcome.returnCode
    stdout := outcome.stdout
    stderr := outcome.stderr
    duration := stop - start }

/-- Does work and then deletes a file, however the work ends. -/
def thenDelete (p : Path) (work : BackendAction α) : BackendAction α := fun b w =>
  match work b w with
  | ((r, b'), w') =>
    match (ClasspathFile.delete p).runIn w' with
    | (.ok _, w'') => ((r, b'), w'')
    | (.error e, w'') => ((.error e, b'), w'')

/-- Gets the jar and writes the classpath file. Without a published jar there is no file. -/
def prepare (entries : List Text.CodePoints) : BackendAction (Option Path) := do
  let b ← ActionOn.thing
  match ← ActionOn.lift (b.acquirer.ensurePresent b.version) with
  | .notPublished => return none
  | .present =>
    ActionOn.lift (logAs logger .info "Processing classes with Retrolambda")
    return some (← ActionOn.lift (ClasspathFile.write entries b.temporaryDirectory))

/-- Runs Java on a configuration whose classpath file is in place. -/
def carryOut (launch : Launcher) (config : BuildConfig) (p : Path) : BackendAction Result := do
  let java ← javaCommand
  let b ← ActionOn.thing
  ActionOn.lift (execute launch (plan config java b.acquirer.jarPath p))

/-- Runs a configuration with a classpath in a process that is launched in a given way. A jar that is
not published skips the run. -/
def runBy (launch : Launcher) (entries : List Text.CodePoints) (config : BuildConfig) :
    BackendAction Result := do
  match ← prepare entries with
  | none =>
    let b ← ActionOn.thing
    return .skip ("Retrolambda " ++ b.version ++ " has not been packaged yet") (some name)
  | some p => thenDelete p (carryOut launch config p)

/-- Runs a configuration in a Java process of the world. -/
def run (config : BuildConfig) : BackendAction Result :=
  runBy (fun command => Process.run command none) (config.classpath.map Text.codePoints) config

end Downlevel.Forked

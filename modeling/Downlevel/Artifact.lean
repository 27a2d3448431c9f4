import Downlevel.World.Files
import Downlevel.World.Process
/-!
# The Retrolambda jar

Coordinates of artifacts, the repositories that they are copied from, and the acquisition of the jar
into the build directory. An artifact that is not published yet is an outcome and no failure.
-/
namespace Downlevel

/-- Group, name and version of an artifact. -/
structure Coordinates where
  group : String
  artifact : String
  version : String
  deriving DecidableEq, Repr

namespace Coordinates

/-- The coordinates of a version of Retrolambda. -/
def retrolambda (version : String) : Coordinates :=
  ⟨"com.kohlschutter.retrolambda", "retrolambda", version⟩

/-- The coordinates with colons between them. -/
def toString (c : Coordinates) : String :=
  c.group ++ ":" ++ c.artifact ++ ":" ++ c.version

/-- Where an artifact lies below the root of a local repository. -/
def pathIn (c : Coordinates) (root : Path) : Path :=
  let group := (Text.parts '.' c.group).foldl Path.child root
  ((group.child c.artifact).child c.version).child (c.artifact ++ "-" ++ c.version ++ ".jar")

end Coordinates

/-- The copying of artifacts by a build tool. -/
structure BuildToolCopier where
  executable : String := "mvn"
  projectDir : Option Path := none
  pluginVersion : String := "2.8"
  deriving DecidableEq, Repr

/-- Something that can copy an artifact to a file. -/
inductive Repository where
  /-- A directory of artifacts. -/
  | localStore (root : Path)
  /-- A build tool that fetches artifacts. -/
  | buildTool (copier : BuildToolCopier)
  /-- Any other way of copying. -/
  | other (copy : Coordinates → Path → Action Unit)

namespace Artifact

/-- The logger of artifacts. -/
def logger : String := "retrolambda_runner.process.artifacts"

/-- What a build tool says of an artifact that the same build has yet to make. -/
def notPackagedMark : String := "has not been packaged yet"

/-- Whether a message says that an artifact is not made yet. -/
def saysNotPackaged (message : String) : Bool :=
  Text.occursIn notPackagedMark.toList message.toList

/-- The fault of a failed retrieval, told apart by its message. -/
def classify (message : String) (c : Coordinates) : RunFault :=
  .about (if saysNotPackaged message then .notPublished else .retrieval) message
    (some (.text c.toString))

/-- The version of Retrolambda that belongs to the installed version of this program. -/
def detectVersion (w : World) (override : Option String) : Except Failure String :=
  match override.filter (· ≠ "") with
  | some v => .ok v
  | none =>
    match w.distributionVersion with
    | some v => .ok v
    | none => .error (.because (.about .retrieval "Failed to detect the Retrolambda version" none)
        ⟨.foreign "PackageNotFoundError" "No package metadata was found for retrolambda-runner", []⟩)

end Artifact

namespace BuildToolCopier

/-- The command that copies an artifact into the directory of a file. -/
def command (m : BuildToolCopier) (c : Coordinates) (destination : Path) : List String :=
  [m.executable, "--batch-mode",
   "org.apache.maven.plugins:maven-dependency-plugin:" ++ m.pluginVersion ++ ":copy",
   "-Dartifact=" ++ c.toString,
   "-DoutputDirectory=" ++ destination.parent.toString,
   "-Dmdep.stripVersion=true",
   "-Dmdep.overWriteReleases=true",
   "-Dmdep.overWriteSnapshots=true"]

/-- What is said of a process that failed: its output, or else its return code. -/
def complaint (o : Process.Outcome) : String :=
  let output := Text.trimmed (o.stdout ++ o.stderr)
  if output = "" then "exit code " ++ toString o.returnCode else output

/-- Copies an artifact: the tool writes a file named for the artifact, which is then renamed. -/
def copy (m : BuildToolCopier) (c : Coordinates) (destination : Path) : Action Unit := do
  let command := m.command c destination
  logAs Artifact.logger .debug ("Running: " ++ " ".intercalate command)
  let outcome ← (Process.run command m.projectDir).orFail Fault.isOs fun e =>
    .because (.about .retrieval ("Failed to run " ++ m.executable ++ ": " ++ e.fault.text)
      (some (.text c.toString))) e
  if outcome.returnCode ≠ 0 then
    throw (.ofRun (Artifact.classify ("Failed to copy " ++ c.toString ++ ": " ++ complaint outcome) c))
  let copied := destination.parent.child (c.artifact ++ ".jar")
  if copied ≠ destination then Files.rename copied destination

end BuildToolCopier

namespace Repository

/-- Copies an artifact out of a directory of artifacts. -/
def copyFrom (root : Path) (c : Coordinates) (destination : Path) : Action Unit := do
  let source := c.pathIn root
  if ← Files.isFile source then
    (do Files.makeDirectoriesOf destination.parent
        Files.copy source destination : Action Unit).orFail Fault.isOs fun e =>
      .because (.about .retrieval
        ("Failed to copy " ++ source.toString ++ " to " ++ destination.toString)
        (some (.text c.toString)) [("error", .text e.fault.text)]) e
  else throw (.ofRun (.about .retrieval
      ("Artifact " ++ c.toString ++ " not found in local repository " ++ root.toString)
      (some (.text c.toString)) [("path", .text source.toString)]))

/-- Copies an artifact to a file. -/
def copy (r : Repository) (c : Coordinates) (destination : Path) : Action Unit :=
  match r with
  | localStore root => copyFrom root c destination
  | buildTool m => m.copy c destination
  | other f => f c destination

end Repository

/-- The outcome of an acquisition. -/
inductive Acquired where
  | present
  | notPublished
  deriving DecidableEq, Repr

/-- The name of an outcome. -/
def Acquired.name : Acquired → String
  | .present => "present"
  | .notPublished => "not_published"

/-- What keeps the jar in a build directory up to date. -/
structure Acquirer where
  repository : Repository
  buildDirectory : Path

namespace Acquirer

/-- Where the jar is kept. -/
def jarPath (a : Acquirer) : Path :=
  (a.buildDirectory.child "retrolambda").child "retrolambda.jar"

/-- The message of a fault that says that the artifact is not published, if it says so. -/
def notPublishedMessage? : Fault → Option String
  | .run f =>
    match f.kind with
    | .notPublished => some f.message
    | .retrieval => if Artifact.saysNotPackaged f.message then some f.message else none
    | _ => none
  | _ => none

/-- Copies a version of Retrolambda to its place. -/
def ensurePresent (a : Acquirer) (version : String) : Action Acquired := do
  logAs Artifact.logger .info ("Retrieving Retrolambda " ++ version)
  tryCatch (do a.repository.copy (.retrolambda version) a.jarPath; return .present) fun e =>
    match notPublishedMessage? e.fault with
    | some message => do
      logAs Artifact.logger .info message
      return .notPublished
    | none => throw e

end Acquirer

end Downlevel

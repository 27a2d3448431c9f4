import Downlevel.CommandLine
/-!
# The program

Takes what a run may look at from the machine, runs the command line on it, and puts back the files
that the run changed. Nothing is decided here.
-/
namespace Downlevel.Program

/-- The version of this program. -/
def version : String := "2.5.8"

/-- The variables of the environment that a run may look at. -/
def variableNames : List String :=
  ["HOME", "PATH", "JAVA_HOME", "RETROLAMBDA_RUNNER", "RETROLAMBDA_TOOLCHAIN",
   "RETROLAMBDA_LOGGING", "RETROLAMBDA_RUNNER_EMBEDDED_ENTRY_POINT",
   "RETROLAMBDA_RUNNER_ARTIFACT_SOURCE", "RETROLAMBDA_RUNNER_LOCAL_REPOSITORY",
   "RETROLAMBDA_RUNNER_MAVEN_EXECUTABLE", "RETROLAMBDA_RUNNER_RETROLAMBDA_VERSION",
   "RETROLAMBDA_TOOLCHAIN_TOOLCHAINS_FILE", "RETROLAMBDA_TOOLCHAIN_BUILD_CONTEXT_VERSION",
   "RETROLAMBDA_LOGGING_LEVEL", "RETROLAMBDA_LOGGING_FORMAT", "RETROLAMBDA_LOGGING_FILE",
   "RETROLAMBDA_LOGGING_USE_RICH"]

/-- The files that a run with an environment and a command line looks at before its settings are
known. -/
def firstFiles (environment : List (String × String)) (line : CommandLine.Line) : List Path :=
  let below (name : String) (files : List String) : List Path :=
    ((environment.lookup name).map fun dir => files.map (Path.ofString dir).child).getD []
  [Variables.fileName, ({} : Machine).installedFile] ++ ((line.value? .config).map Path.ofString).toList
    ++ below "JAVA_HOME" ["release", "bin/java"]
    ++ (Text.parts ':' ((environment.lookup "PATH").getD "")).map fun dir =>
      (Path.ofString dir).child "java"

/-- The files that settings name. -/
def filesOf (s : Settings) : List Path :=
  let wanted := s.runner.version.getD version
  s.toolchain.file.toList ++ s.logging.file.toList
    ++ [(Coordinates.retrolambda wanted).pathIn s.runner.localRepository]

/-- Takes the files that are there into a world. -/
def takeFiles (files : List Path) (w : World) : IO World :=
  files.foldlM (fun w p => do
    try
      let bytes ← IO.FS.readBinFile p.toString
      return w.placed p.toString (.file bytes.toList true)
    catch _ => return w) w

/-- The world of a command line. -/
def world (words : List String) : IO World := do
  let environment ← variableNames.filterMapM fun name => do
    return (← IO.getEnv name).map fun value => (name, value)
  let cwd := (Path.ofString (← IO.currentDir).toString).names
  let line := ((CommandLine.Line.parse .program words).toOption).getD ⟨[], []⟩
  let empty : World := { tree := .empty, cwd, environment, distributionVersion := some version }
  let bare := (empty.placed "/tmp" .directory).placed (FileTree.pathOf cwd).toString .directory
  let first ← takeFiles (firstFiles environment line) bare
  match ((CommandLine.settings line).runIn first).1 with
  | .ok s => takeFiles (filesOf s) first
  | .error _ => return first

/-- Puts the files of a world that a run changed back onto the machine. -/
def store (before after : World) : IO Unit := do
  for (place, node) in after.tree.nodes do
    match node with
    | .file _ _ bytes =>
      if before.tree.find? place ≠ some node then
        IO.FS.createDirAll (FileTree.pathOf place.dropLast).toString
        IO.FS.writeBinFile (FileTree.pathOf place).toString ⟨bytes.toArray⟩
    | _ => continue
  for (place, node) in before.tree.nodes do
    match node, after.tree.find? place with
    | .file _ _ _, none => IO.FS.removeFile (FileTree.pathOf place).toString
    | _, _ => continue

end Downlevel.Program

open Downlevel in
/-- Runs the program. -/
def main (words : List String) : IO UInt32 := do
  let before ← Program.world words
  let (outcome, after) := CommandLine.run words before
  Program.store before after
  (← IO.getStdout).putStr outcome.output
  let failure := (outcome.failure.map fun f => f.fault.name ++ ": " ++ f.chainText ++ "\n").getD ""
  (← IO.getStderr).putStr (after.errorStream ++ outcome.errors ++ failure)
  return (outcome.exitCode % 256).toNat.toUInt32

import Downlevel.World.Files
/-!
# Classpath files

A forked run gets its classpath in a temporary file, one entry a line. Files that were written and not
deleted yet are pending. A file that cannot be written completely is deleted at once.
-/
namespace Downlevel.ClasspathFile

/-- The logger of classpath files. -/
def logger : String := "retrolambda_runner.process.classpath"

/-- The name of the temporary file with a number. -/
def fileName (n : Nat) : String :=
  "retrolambda" ++ Decimal.padDigits 8 n ++ "classpath"

/-- Creates a new file in a directory. The numbers of taken names are passed over; every attempt uses
up a number. -/
def create (directory : Path) : Nat → Action Path
  | 0 => Action.fail (.foreign "FileExistsError" "[Errno 17] No usable temporary file name found")
  | attempts + 1 => do
    let w ← get
    let n := w.temporaryFiles + 1
    set { w with temporaryFiles := n }
    let p := directory.child (fileName n)
    match w.tree.create w.cwd w.freshId p with
    | .ok tree =>
      modify fun w => { w with tree }
      return p
    | .error .exists => create directory attempts
    | .error e => throw (Files.failure e p)

/-- The contents of a classpath file: the entries with line feeds between them. -/
def contents (entries : List Text.CodePoints) : Text.CodePoints :=
  ['\n'.toNat].intercalate entries

/-- What is said of a run of surrogates. -/
def encodingFault (run : Text.SurrogateRun) : Fault :=
  .foreign "UnicodeEncodeError" ("'utf-8' codec can't encode character" ++
    (match run.points with
      | [n] => " '" ++ String.ofList (Text.codeEscape n) ++ "' in position " ++ toString run.start
      | ns => "s in position " ++ toString run.start ++ "-" ++ toString (run.start + ns.length - 1))
    ++ ": surrogates not allowed")

/-- Adds a file to the pending ones. -/
def addPending (p : Path) (w : World) : World :=
  { w with pending := if w.pending.contains p then w.pending else w.pending ++ [p] }

/-- Takes a file out of the pending ones. -/
def dropPending (p : Path) (w : World) : World :=
  { w with pending := w.pending.filter (· ≠ p) }

/-- Deletes a file. A refusal is no failure: it is told, and the file stays pending. -/
def delete (p : Path) : Action Bool := do
  let w ← get
  match (Files.discard p).runIn w with
  | (.ok (), w') =>
    set (dropPending p w')
    return true
  | (.error e, w') =>
    set w'
    logAs logger .warning ("Unable to delete " ++ p.toString ++ ": " ++ e.fault.text)
    return false

/-- Writes entries into a file. -/
def fill (p : Path) (entries : List Text.CodePoints) : Action Unit :=
  match Text.encodeUtf8 (contents entries) with
  | .error run => Action.fail (encodingFault run)
  | .ok bytes => Files.write p bytes

/-- The failure to find a directory for temporary files. -/
def noDirectory : Fault :=
  .foreign "FileNotFoundError" "[Errno 2] No usable temporary directory found"

/-- Where a new file goes: the directory that is named, or else the one of the machine, as an absolute
path with its two dots worked out on the text. -/
def directoryIn (w : World) (directory : Option Path) : Except Failure Path :=
  match directory.or w.machine.temporaryDirectory with
  | some d => .ok (d.under (FileTree.pathOf w.cwd)).normalized
  | none => .error ⟨noDirectory, []⟩

/-- Makes a new empty classpath file, which is pending from then on. -/
def make (directory : Option Path) : Action Path := do
  let w ← get
  let p ← (do create (← Action.ofExcept (directoryIn w directory)) (w.tree.nodes.length + 1) :
      Action Path).orFail Fault.isOs fun e =>
    .because (.about .classpathFile ("Failed to create classpath file: " ++ e.fault.text) none) e
  modify (addPending p)
  return p

/-- The failure to fill a file that was made. -/
def notWritten (p : Path) (e : Failure) : Failure :=
  .because (.about .classpathFile ("Failed to write classpath file: " ++ e.fault.text)
    (some (.text p.toString))) e

/-- Makes a new classpath file and fills it. If the filling fails on the system or on a text that has
no form in bytes, the file is deleted at once. -/
def writeBy (fill : Path → Action Unit) (directory : Option Path) : Action Path := do
  let p ← make directory
  tryCatch (fill p) fun e =>
    if e.fault.isOs || e.fault.isUnicode then do
      let _ ← delete p
      throw (notWritten p e)
    else throw e
  return p

/-- Writes a new classpath file. -/
def write (entries : List Text.CodePoints) (directory : Option Path) : Action Path :=
  writeBy (fun p => fill p entries) directory

/-- Works with a file that is filled in some way and deleted afterwards, however the work ends. -/
def withFileBy (fill : Path → Action Unit) (directory : Option Path) (work : Path → Action α) :
    Action α := do
  let p ← writeBy fill directory
  (work p).followedBy (do let _ ← delete p)

/-- Works with a classpath file that is deleted afterwards. -/
def withFile (entries : List Text.CodePoints) (directory : Option Path) (work : Path → Action α) :
    Action α :=
  withFileBy (fun p => fill p entries) directory work

/-- Deletes files one after the other. -/
def sweep (ps : List Path) : Action Unit :=
  ps.forM fun p => do let _ ← delete p

/-- Deletes all pending files. -/
def cleanUp : Action Unit := do
  let w ← get
  sweep w.pending

end Downlevel.ClasspathFile

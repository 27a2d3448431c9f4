import Downlevel.World
/-!
# Steps on files

What a run does to files. A refusal names the path that it is about.
-/
namespace Downlevel.Files

/-- The failure of a refusal about a path, or two of them. The system is not asked about a path with a null
character. -/
def failure (e : Errno) (p : Path) (target : Option Path := none) : Failure :=
  ⟨if p.hasNull || target.any Path.hasNull then .nullByte
    else .os e p.toString (target.map Path.toString), []⟩

/-- The result of an operation on the tree, or its refusal about a path. -/
def refused (p : Path) : Except Errno α → Except Failure α
  | .ok x => .ok x
  | .error e => .error (failure e p)

/-- Whether a look at a path finds anything. -/
def holds (p : Path) : Action Bool := do
  let w ← get
  Action.ofExcept (refused p (w.tree.holds w.cwd p))

/-- Whether a look at a path finds a file. -/
def isFile (p : Path) : Action Bool := do
  let w ← get
  Action.ofExcept (refused p (w.tree.isFile w.cwd p))

/-- The bytes of a file. -/
def read (p : Path) : Action (List UInt8) := do
  let w ← get
  Action.ofExcept (refused p (w.tree.read w.cwd p))

/-- The text of a file that is read at once. -/
def readText (p : Path) : Action (List Char) := do
  let bytes ← read p
  Action.ofExcept (Decoding.ofBytes bytes)

/-- How much of some bytes is written before a break. -/
def kept (bytes : List UInt8) : Option Break → List UInt8
  | none => bytes
  | some b => bytes.take b.written

/-- Writes a file. If the system breaks the write off, the file has what was written until then. -/
def writeOr (fault : Break → Fault) (p : Path) (bytes : List UInt8) : Action Unit := do
  let w ← get
  let next := w.breaks.head?.join
  let tree ← Action.ofExcept (refused p (w.tree.write w.cwd w.freshId p (kept bytes next)))
  set { w with tree, breaks := w.breaks.tail }
  match next with
  | none => return
  | some b => Action.fail (fault b)

/-- Writes a file. A write that is broken off fails about no path. -/
def write (p : Path) (bytes : List UInt8) : Action Unit :=
  writeOr (fun b => .unnamed b.errno) p bytes

/-- Opens a file for additions: its identity. -/
def openForAppending (p : Path) : Action Nat := do
  let w ← get
  let (id, tree) ← Action.ofExcept (refused p (w.tree.openForWriting w.cwd w.freshId false p))
  set { w with tree }
  return id

/-- Removes a file; one that is not there is no failure. -/
def discard (p : Path) : Action Unit := do
  let w ← get
  match w.tree.remove w.cwd p with
  | .ok tree => set { w with tree }
  | .error e => if e = .noEntry ∧ ¬ p.hasNull then return else throw (failure e p)

/-- Moves a file. -/
def rename (p q : Path) : Action Unit := do
  let w ← get
  match w.tree.rename w.cwd p q with
  | .ok tree => set { w with tree }
  | .error e => throw (failure e p (some q))

/-- What becomes of the refusal to make a directory: it is none if a directory is there. -/
def unlessDirectory (e : Errno) (p : Path) : Action Unit := do
  let w ← get
  if ← Action.ofExcept (refused p (w.tree.isDirectory w.cwd p)) then return
  else throw (failure e p)

/-- Makes a directory and the missing ones above it. A path that leads to a directory already is
left alone. The number of names bounds the way up. -/
def makeDirectories (fuel : Nat) (p : Path) : Action Unit := do
  let w ← get
  match w.tree.makeDirectory w.cwd p with
  | .ok tree => set { w with tree }
  | .error .noEntry =>
    if p.hasNull then throw (failure .noEntry p)
    else match fuel with
      | 0 => throw (failure .noEntry p)
      | fuel + 1 =>
        makeDirectories fuel p.parent
        let w' ← get
        match w'.tree.makeDirectory w'.cwd p with
        | .ok tree => set { w' with tree }
        | .error e => unlessDirectory e p
  | .error e => unlessDirectory e p

/-- Makes all directories of a path. -/
def makeDirectoriesOf (p : Path) : Action Unit :=
  makeDirectories p.names.length p

/-- What is said of a copy that breaks off: both paths, unless not even the first bytes went over for
another reason than a full disk. -/
def copyFault (source target : Path) (b : Break) : Fault :=
  if b.errno = .noSpace ∨ 0 < b.written then
    .os b.errno source.toString (some target.toString)
  else .unnamed b.errno

/-- Copies the bytes of a file over another. A file is not copied onto itself. -/
def copy (source target : Path) : Action Unit := do
  let w ← get
  let place? (p : Path) : Option Place := match w.tree.locate w.cwd true p with
    | .ok place => if (w.tree.find? place).isSome then some place else none
    | .error _ => none
  match place? source, place? target with
  | some a, some b =>
    if a = b then
      Action.fail (.foreign "SameFileError" ("PosixPath(" ++ Text.quoted source.toString
        ++ ") and PosixPath(" ++ Text.quoted target.toString ++ ") are the same file"))
  | _, _ => pure ()
  let bytes ← read source
  writeOr (copyFault source target) target bytes

end Downlevel.Files

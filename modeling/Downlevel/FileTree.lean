import Downlevel.Fault
import Downlevel.Path
/-!
# File trees

A tree of files, directories and symbolic links, as a process sees it that may read and write
everything. A place is a list of names from the root and holds no dots and, seen through `locate`, no
links. Files have an identity that a rename keeps, so that an open file can be followed. In a closed
directory nothing can be looked up: it may not be searched, or what it is on has failed. A name or a
path that is too long is refused as well.
-/
namespace Downlevel

/-- A place in a tree: the names from the root to it. -/
abbrev Place := List String

/-- What stands at a place. -/
inductive Node where
  | file (id : Nat) (executable : Bool) (bytes : List UInt8)
  | directory
  | link (target : String)
  deriving DecidableEq, Repr

/-- A tree of nodes. The root is a directory and is not listed. -/
structure FileTree where
  nodes : List (Place × Node)
  /-- The closed directories, with what the system says of a name that is looked up there. -/
  closed : List (Place × Errno) := []
  deriving DecidableEq, Repr

namespace FileTree

/-- The tree with nothing but the root. -/
def empty : FileTree where
  nodes := []

/-- The node at a place. -/
def find? (t : FileTree) (p : Place) : Option Node :=
  if p = [] then some .directory else t.nodes.lookup p

/-- Puts a node at a place. -/
def put (t : FileTree) (p : Place) (n : Node) : FileTree :=
  { t with nodes := (p, n) :: t.nodes.filter fun e => e.1 ≠ p }

/-- Takes away the node at a place. -/
def take (t : FileTree) (p : Place) : FileTree :=
  { t with nodes := t.nodes.filter fun e => e.1 ≠ p }

/-- What is put at a place is found there. -/
theorem find?_put_self {t : FileTree} {p : Place} {n : Node} (h : p ≠ []) :
    (t.put p n).find? p = some n := by
  simp [find?, put, h]

/-- Whether a place is below another. -/
def isBelow (p q : Place) : Bool :=
  q.isPrefixOf p && p.length ≠ q.length

/-- Takes away a place and all below it. -/
def takeAll (t : FileTree) (p : Place) : FileTree :=
  { t with nodes := t.nodes.filter fun e => !p.isPrefixOf e.1 }

/-- Whether a directory holds anything. -/
def hasEntries (t : FileTree) (p : Place) : Bool :=
  t.nodes.any fun e => isBelow e.1 p

/-- The greatest identity of a file. -/
def lastId (t : FileTree) : Nat :=
  t.nodes.foldl (fun n e => match e.2 with | .file id _ _ => max n id | _ => n) 0

/-- Appends to the file with an identity, wherever it stands. -/
def append (t : FileTree) (id : Nat) (more : List UInt8) : FileTree :=
  { t with nodes := t.nodes.map fun e => match e.2 with
      | .file i x bytes => if i = id then (e.1, .file i x (bytes ++ more)) else e
      | _ => e }

/-- The number of links that may be passed on the way to one place. -/
def linkLimit : Nat := 40

/-- The names in a link or a path text; a slash at the end asks for a directory. -/
def steps (s : String) : List String :=
  let names := (Text.parts '/' s).filter (· ≠ "")
  if s.endsWith "/" && s ≠ "" then names ++ ["."] else names

/-- The number of bytes that a name may have. -/
def nameLimit : Nat := 255

/-- Why a name cannot be looked up in a directory, if it cannot. -/
def refusal? (t : FileTree) (directory : Place) (name : String) : Option Errno :=
  (t.closed.lookup directory).or
    (if nameLimit < (Text.utf8 name).length then some .nameTooLong else none)

/-- Follows names from a directory. The result is a place whose parent is a directory; it may be
vacant. `followLast` tells whether a link at the end is followed. -/
def walk (t : FileTree) (followLast : Bool) (links : Nat) (at_ : Place) :
    List String → Except Errno Place
  | [] => .ok at_
  | n :: rest =>
    match t.refusal? at_ n with
    | some e => .error e
    | none =>
      if n = "." then walk t followLast links at_ rest
      else if n = ".." then walk t followLast links at_.dropLast rest
      else
        let p := at_ ++ [n]
        match t.find? p with
        | none => if rest.isEmpty then .ok p else .error .noEntry
        | some .directory => walk t followLast links p rest
        | some (.file _ _ _) => if rest.isEmpty then .ok p else .error .notDirectory
        | some (.link target) =>
          if rest.isEmpty && !followLast then .ok p
          else match links with
            | 0 => .error .tooManyLinks
            | links + 1 =>
              walk t followLast links (if target.startsWith "/" then [] else at_)
                (steps target ++ rest)
  termination_by names => (links, names.length)

/-- Why a path is refused as a whole: it is too long, or no node can have its name. -/
def pathRefusal? (p : Path) : Option Errno :=
  if p.hasNull then some .noEntry else if p.isTooLong then some .nameTooLong else none

/-- The place of a path seen from a directory. -/
def locate (t : FileTree) (cwd : Place) (followLast : Bool) (p : Path) : Except Errno Place :=
  match pathRefusal? p with
  | some e => .error e
  | none => walk t followLast linkLimit (if p.isAbsolute then [] else cwd) p.names

/-- The place of an unread path text; the empty text is nowhere. -/
def locateText (t : FileTree) (cwd : Place) (s : String) : Except Errno Place :=
  if s = "" then .error .noEntry
  else walk t true linkLimit (if s.startsWith "/" then [] else cwd) (steps s)

/-- The node that a path leads to, through links. -/
def status (t : FileTree) (cwd : Place) (p : Path) : Except Errno Node :=
  match t.locate cwd true p with
  | .error e => .error e
  | .ok place =>
    match t.find? place with
    | none => .error .noEntry
    | some n => .ok n

/-- The node that a look at a path finds. Some refusals are taken for absence, and others stay. -/
def look (t : FileTree) (cwd : Place) (p : Path) : Except Errno (Option Node) :=
  match t.status cwd p with
  | .ok n => .ok (some n)
  | .error e => if e.isAbsence then .ok none else .error e

/-- Whether a look at a path finds anything. -/
def holds (t : FileTree) (cwd : Place) (p : Path) : Except Errno Bool :=
  (t.look cwd p).map Option.isSome

/-- Whether a look at a path finds a file. -/
def isFile (t : FileTree) (cwd : Place) (p : Path) : Except Errno Bool :=
  (t.look cwd p).map fun n => match n with
    | some (.file _ _ _) => true
    | _ => false

/-- Whether a look at a path finds a directory. -/
def isDirectory (t : FileTree) (cwd : Place) (p : Path) : Except Errno Bool :=
  (t.look cwd p).map fun n => match n with
    | some .directory => true
    | _ => false

/-- Whether a path leads to a file that can be run. -/
def isExecutable (t : FileTree) (cwd : Place) (p : Path) : Bool :=
  match t.status cwd p with
  | .ok (.file _ x _) => x
  | _ => false

/-- The bytes of the file that a path leads to. -/
def read (t : FileTree) (cwd : Place) (p : Path) : Except Errno (List UInt8) :=
  match t.status cwd p with
  | .error e => .error e
  | .ok (.file _ _ bytes) => .ok bytes
  | .ok _ => .error .isDirectory

/-- Opens a file for writing: its identity, in the tree with the file there. A new file takes the
identity that is offered; an old one keeps its own, and loses its bytes if it is emptied. -/
def openForWriting (t : FileTree) (cwd : Place) (fresh : Nat) (emptied : Bool) (p : Path) :
    Except Errno (Nat × FileTree) :=
  match t.locate cwd true p with
  | .error e => .error e
  | .ok place =>
    match t.find? place with
    | none => .ok (fresh, t.put place (.file fresh false []))
    | some (.file id x bytes) =>
      .ok (id, if emptied then t.put place (.file id x []) else t.put place (.file id x bytes))
    | some _ => .error .isDirectory

/-- Writes a file from its start. -/
def write (t : FileTree) (cwd : Place) (fresh : Nat) (p : Path) (bytes : List UInt8) :
    Except Errno FileTree :=
  match t.openForWriting cwd fresh true p with
  | .error e => .error e
  | .ok (id, t') => .ok (t'.append id bytes)

/-- Makes a new empty file with an identity; nothing, not even a link, may stand there. -/
def create (t : FileTree) (cwd : Place) (fresh : Nat) (p : Path) : Except Errno FileTree :=
  match t.locate cwd false p with
  | .error e => .error e
  | .ok place =>
    match t.find? place with
    | none => .ok (t.put place (.file fresh false []))
    | some _ => .error .exists

/-- Takes away a file or a link. -/
def remove (t : FileTree) (cwd : Place) (p : Path) : Except Errno FileTree :=
  match t.locate cwd false p with
  | .error e => .error e
  | .ok place =>
    match t.find? place with
    | none => .error .noEntry
    | some .directory => .error .isDirectory
    | some _ => .ok (t.take place)

/-- Makes a directory in a directory. -/
def makeDirectory (t : FileTree) (cwd : Place) (p : Path) : Except Errno FileTree :=
  match t.locate cwd false p with
  | .error e => .error e
  | .ok place =>
    match t.find? place with
    | none => .ok (t.put place .directory)
    | some _ => .error .exists

/-- Moves a node, with all below it. A file or link at the new place gives way, a directory only
to a directory and only when it is empty. -/
def rename (t : FileTree) (cwd : Place) (p q : Path) : Except Errno FileTree :=
  match t.locate cwd false p, t.locate cwd false q with
  | .error e, _ => .error e
  | _, .error e => .error e
  | .ok source, .ok target =>
    match t.find? source, t.find? target with
    | none, _ => .error .noEntry
    | some .directory, none =>
      if isBelow target source then .error .invalid else .ok (moveAll source target)
    | some .directory, some .directory =>
      if source = target then .ok t
      else if isBelow target source then .error .invalid
      else if t.hasEntries target then .error .notEmpty
      else .ok (moveAll source target)
    | some .directory, some _ => .error .notDirectory
    | some _, some .directory => .error .isDirectory
    | some n, _ => .ok (if source = target then t else (t.take source).put target n)
where
  /-- Puts everything at or below one place at the same distance from another. -/
  moveAll (source target : Place) : FileTree :=
    let moved := t.nodes.filter fun e => source.isPrefixOf e.1
    let rest := t.nodes.filter fun e => !source.isPrefixOf e.1 && e.1 ≠ target
    { t with nodes := (moved.map fun e => (target ++ e.1.drop source.length, e.2)) ++ rest }

/-- The path of a place. -/
def pathOf (p : Place) : Path :=
  ⟨.root, p⟩

/-- The path that a path leads to through all links; what does not exist is taken by its names. -/
def resolved (t : FileTree) (cwd : Place) (p : Path) : Path :=
  match t.locate cwd true p with
  | .ok place => pathOf place
  | .error _ => (p.under (pathOf cwd)).normalized

/-- The nodes in the order of their path texts; of the directories only the empty ones. -/
def listing (t : FileTree) : List (String × Node) :=
  let shown := t.nodes.filter fun e => match e.2 with
    | .directory => !t.hasEntries e.1
    | _ => true
  let named := shown.map fun e => ((pathOf e.1).toString, e.2)
  named.mergeSort fun a b => a.1 ≤ b.1

end FileTree

end Downlevel

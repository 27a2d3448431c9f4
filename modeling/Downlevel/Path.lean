import Downlevel.Text.Blank
import Downlevel.Text.Utf8
/-!
# Paths

A path is an anchor and a list of names. Slashes in a row and single dots vanish, two dots stay,
and a path with exactly two slashes in front keeps them. Joining an absolute path replaces what
stood before it.
-/
namespace Downlevel

/-- Where a path starts. -/
inductive Anchor where
  | here
  | root
  | doubleRoot
  deriving DecidableEq, Repr

/-- A path: its anchor and the names below it. -/
structure Path where
  anchor : Anchor
  names : List String
  deriving DecidableEq, Repr

namespace Path

/-- The anchor of a path text: two slashes are one of their own, three are one. -/
def anchorOf : List Char → Anchor
  | '/' :: '/' :: '/' :: _ => .root
  | '/' :: '/' :: _ => .doubleRoot
  | '/' :: _ => .root
  | _ => .here

/-- The names in a path text. -/
def namesOf (s : String) : List String :=
  (Text.parts '/' s).filter fun n => n ≠ "" ∧ n ≠ "."

/-- Reads a path. -/
def ofString (s : String) : Path :=
  ⟨anchorOf s.toList, namesOf s⟩

/-- The text of an anchor. -/
def anchorText : Anchor → String
  | .here => ""
  | .root => "/"
  | .doubleRoot => "//"

/-- The text of a path. The empty path is a dot. -/
def toString (p : Path) : String :=
  if p.anchor = .here ∧ p.names = [] then "."
  else anchorText p.anchor ++ "/".intercalate p.names

instance : ToString Path where
  toString := Path.toString

/-- Whether a path has a null character, which no path of the system has. -/
def hasNull (p : Path) : Bool :=
  p.names.any fun n => n.toList.contains '\x00'

/-- The number of bytes that the text of a path may not reach. -/
def sizeLimit : Nat := 4096

/-- Whether the text of a path is longer than the system takes. -/
def isTooLong (p : Path) : Bool :=
  sizeLimit ≤ (Text.utf8 p.toString).length

/-- Whether a path starts at a root. -/
def isAbsolute (p : Path) : Bool :=
  p.anchor ≠ .here

/-- The path of `q` seen from `p`. -/
def join (p q : Path) : Path :=
  if q.isAbsolute then q else ⟨p.anchor, p.names ++ q.names⟩

/-- A path one text further. -/
def child (p : Path) (s : String) : Path :=
  p.join (ofString s)

/-- The path without its last name. -/
def parent (p : Path) : Path :=
  ⟨p.anchor, p.names.dropLast⟩

/-- A path seen from a directory. -/
def under (p base : Path) : Path :=
  base.join p

/-- Removes each pair of a name and two dots after it. Two dots at the root vanish. -/
def collapse (absolute : Bool) (done : List String) : List String → List String
  | [] => done.reverse
  | n :: rest =>
    if n = ".." then
      match done with
      | d :: before =>
        if d = ".." then collapse absolute (n :: done) rest else collapse absolute before rest
      | [] => if absolute then collapse absolute [] rest else collapse absolute [n] rest
    else collapse absolute (n :: done) rest

/-- The path with its two dots worked out on the text alone. -/
def normalized (p : Path) : Path :=
  ⟨p.anchor, collapse p.isAbsolute [] p.names⟩

/-- An absolute path is not joined to anything. -/
theorem join_of_isAbsolute {p q : Path} (h : q.isAbsolute = true) : p.join q = q := by
  simp [join, h]

/-- A joined path is absolute if either part is. -/
theorem isAbsolute_join (p q : Path) :
    (p.join q).isAbsolute = (p.isAbsolute || q.isAbsolute) := by
  unfold join
  split <;> simp_all [isAbsolute]

end Path

end Downlevel

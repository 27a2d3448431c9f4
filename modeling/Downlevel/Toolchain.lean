import Downlevel.Data.Field
import Downlevel.Text.Case
import Downlevel.Version
import Downlevel.World.Files
/-!
# Toolchains

A toolchain is an installation of a kind of tool with what it provides. It meets requirements when it
provides every one of them: versions by their meaning, anything else without regard to letter case.
Its tools lie in the `bin` directory of its home.
-/
namespace Downlevel

/-- Whether the name of a platform is one of Windows. No name, or an empty one, is Linux. -/
def isWindows (platform : Option String) : Bool :=
  match platform with
  | none => false
  | some p => "win".toList.isPrefixOf p.toList

/-- The Java launcher of an installation. -/
def javaExecutable (home : Path) (platform : Option String) : Path :=
  (home.child "bin").child (if isWindows platform then "java.exe" else "java")

/-- An installation of a kind of tool. -/
structure Toolchain where
  type : String
  provides : List (String × String)
  home : Path
  deriving DecidableEq, Repr

namespace Toolchain

/-- Reads a toolchain. -/
def read (fs : Fields) : Reading Toolchain :=
  (((Reading.value mk).seq (fs.optional "type" "jdk" Field.text)).seq
    (fs.optional "provides" [] Field.textMap)).seq (fs.required "home" Field.path)

/-- What a toolchain is called: its type in capitals and its home in brackets. -/
def label (t : Toolchain) : String :=
  Text.uppercase t.type ++ "[" ++ t.home.toString ++ "]"

/-- Whether a provided value meets a required one. -/
def meets (key required provided : String) : Except Failure Bool :=
  if key = "version" then Version.meets required provided
  else .ok (Text.lowercase provided == Text.lowercase required)

/-- Whether a toolchain meets all requirements. The first that it does not meet decides. -/
def satisfies (t : Toolchain) : List (String × String) → Except Failure Bool
  | [] => .ok true
  | (key, required) :: rest =>
    match t.provides.lookup key with
    | none => .ok false
    | some provided =>
      match meets key required provided with
      | .error e => .error e
      | .ok false => .ok false
      | .ok true => t.satisfies rest

/-- Where a tool of a toolchain would be. -/
def toolPath (t : Toolchain) (tool : String) (platform : Option String) : Path :=
  if tool = "java" then javaExecutable t.home platform
  else (t.home.child "bin").child (tool ++ if isWindows platform then ".exe" else "")

/-- A tool of a toolchain, if a look finds it. -/
def findTool (w : World) (t : Toolchain) (tool : String) (platform : Option String) :
    Except Failure (Option Path) :=
  let p := t.toolPath tool platform
  match Files.refused p (w.tree.isFile w.cwd p) with
  | .error e => .error e
  | .ok found => .ok (if found then some p else none)

/-- A tool of a toolchain, if it is there to be found. -/
def tool? (w : World) (t : Toolchain) (tool : String) (platform : Option String) : Option Path :=
  (t.findTool w tool platform).toOption.join

end Toolchain

end Downlevel

import Downlevel.World
/-!
# Loading modules

A dotted module name is loaded from its first part on; the code of each module runs then, and may fail. The
name of a module below another one makes that one a package. Attributes are looked up one after the other.
What can be called has a call of its own as an attribute.
-/
namespace Downlevel

namespace Modules

/-- Whether a module has modules below it. -/
def isPackage (w : World) (name : String) : Bool :=
  w.modules.any fun m => (name ++ ".").toList.isPrefixOf m.1.toList

/-- Whether a module can be loaded once its parents are. -/
def isKnown (w : World) (name : String) : Bool :=
  (w.modules.lookup name).isSome || isPackage w name

/-- What a text names when it is no module. -/
def noModule (name : String) (suffix : String) : Failure :=
  ⟨.foreign "ModuleNotFoundError" ("No module named " ++ Text.quoted name ++ suffix), []⟩

/-- Runs the code of a module, if it has any. -/
def runCode (w : World) (name : String) : Except Failure Unit :=
  match (w.modules.lookup name).bind Module.raised with
  | some e => .error e
  | none => .ok ()

/-- Loads the parts of a name from left to right, given the name loaded so far. -/
def loadParts (w : World) (loaded : String) : List String → Except Failure Unit
  | [] => .ok ()
  | part :: rest =>
    let name := loaded ++ "." ++ part
    if isKnown w name then
      match runCode w name with
      | .error e => .error e
      | .ok () => loadParts w name rest
    else if isPackage w loaded then .error (noModule name "")
    else .error (noModule name ("; " ++ Text.quoted loaded ++ " is not a package"))

/-- Loads all modules on the way to a name. -/
def loadAll (w : World) (name : String) : Except Failure Unit :=
  match Text.parts '.' name with
  | [] => .error (noModule name "")
  | first :: rest =>
    if isKnown w first then
      match runCode w first with
      | .error e => .error e
      | .ok () => loadParts w first rest
    else .error (noModule first "")

/-- A module as an object. -/
def object (w : World) (name : String) : Member :=
  .object ("module '" ++ name ++ "'") none
    (((w.modules.lookup name).map Module.attributes).getD [])

/-- The module of a name. -/
def load (w : World) (name : String) : Except Failure Member :=
  if name.startsWith "." then
    .error ⟨.foreign "TypeError"
      ("the 'package' argument is required to perform a relative import for " ++ Text.quoted name),
      []⟩
  else match loadAll w name with
    | .error e => .error e
    | .ok () => .ok (object w name)

/-- The failure to find an attribute, said of its owner. -/
def noAttribute (owner name : String) : Failure :=
  ⟨.foreign "AttributeError" (owner ++ " has no attribute '" ++ name ++ "'"), []⟩

end Modules

namespace Member

/-- The attribute of an object. The call of what can be called is another thing to call, with the same
effect. -/
def attributeNamed (m : Member) (name : String) : Except Failure Member :=
  match m.attributes.lookup name with
  | some r => r
  | none =>
    if name = "__call__" ∧ m.calling.isSome then .ok m
    else .error (Modules.noAttribute m.shown name)

/-- The object that a path of attributes leads to. -/
def follow (m : Member) : List String → Except Failure Member
  | [] => .ok m
  | name :: rest =>
    match m.attributeNamed name with
    | .error e => .error e
    | .ok m' => m'.follow rest

end Member

/-- The object that a path of attributes of a module leads to. -/
def Modules.member (w : World) (module_ : String) (path : List String) : Except Failure Member :=
  match load w module_ with
  | .error e => .error e
  | .ok m => m.follow path

end Downlevel

import Downlevel.Machine
/-!
# Home directories

A path may start with a tilde, which stands for the home directory of the user, or of the user whose name
follows. The variable of the environment counts before what the system knows.
-/
namespace Downlevel.Home

/-- The failure to find a home directory. -/
def unknown : Failure :=
  ⟨.foreign "RuntimeError" "Could not determine home directory.", []⟩

/-- A path text without the slashes at its end. -/
def trimSlashes (s : String) : String :=
  String.ofList (s.toList.reverse.dropWhile (· = '/')).reverse

/-- The home directory that a tilde and a user name stand for, as a text. -/
def ofTilde (homes : Homes) (environment : List (String × String)) (name : String) : String :=
  let home? : Option String :=
    if name = "~" then (environment.lookup "HOME").or homes.own
    else homes.named.lookup (String.ofList (name.toList.drop 1))
  match home? with
  | none => name
  | some home => if trimSlashes home = "" then "/" else trimSlashes home

/-- A path with a tilde in front replaced by the home directory. -/
def expand (homes : Homes) (environment : List (String × String)) (p : Path) :
    Except Failure Path :=
  match p.anchor, p.names with
  | .here, name :: rest =>
    if name.startsWith "~" then
      let home := ofTilde homes environment name
      if home.startsWith "~" then .error unknown
      else .ok (rest.foldl (fun q n => ⟨q.anchor, q.names ++ [n]⟩) (Path.ofString home))
    else .ok p
  | _, _ => .ok p

/-- The home directory. -/
def directory (homes : Homes) (environment : List (String × String)) : Except Failure Path :=
  expand homes environment (Path.ofString "~")

end Downlevel.Home

import Downlevel.Host
import Downlevel.Registry
/-!
# Resolution of the Java runtime

The runtime of a forked run is the first that a chain of rules finds: the home given as a parameter,
a managed toolchain of version 1.8 and then of version 8, the toolchain selected for the build. The
host runtime ends the chain. A look for a launcher that the system refuses ends the resolution.
-/
namespace Downlevel

/-- Where a runtime comes from. -/
inductive RuntimeSource where
  | explicit
  | toolchain
  | buildContext
  | host
  deriving DecidableEq, Repr

/-- The name of a source. -/
def RuntimeSource.name : RuntimeSource → String
  | .explicit => "explicit"
  | .toolchain => "toolchain"
  | .buildContext => "build_context"
  | .host => "host"

/-- The sources by name. -/
def RuntimeSource.table : List (String × RuntimeSource) :=
  [.explicit, .toolchain, .buildContext, .host].map fun s => (s.name, s)

/-- A runtime that was found: its launcher, its source, and the toolchain that it belongs to. -/
structure Candidate where
  executable : String
  source : RuntimeSource
  toolchain : Option String := none
  deriving DecidableEq, Repr

namespace Candidate

/-- Reads a candidate. -/
def read (fs : Fields) : Reading Candidate :=
  (((Reading.value mk).seq (fs.required "executable" Field.text)).seq
    (fs.required "source" (Field.word "enum" RuntimeSource.table))).seq
    (fs.optional "toolchain" none (Field.optional Field.text))

/-- The launcher, and its source in brackets. -/
def label (c : Candidate) : String :=
  c.executable ++ " (" ++ c.source.name ++ ")"

end Candidate

namespace Resolution

/-- The logger of resolution. -/
def logger : String := "retrolambda_runner.process.resolver"

/-- What resolution depends on. -/
structure Context where
  java8Home : Option Path := none
  toolchains : Registry := {}
  host : Host := {}
  platform : Option String := none
  deriving DecidableEq, Repr

/-- A rule of the chain. -/
inductive Rule where
  | explicitHome
  | managed (version : String)
  | buildContext
  deriving DecidableEq, Repr

/-- The type of the toolchains that hold a Java runtime. -/
def jdk : String := "jdk"

/-- The runtime of a toolchain, if its launcher is there. -/
def ofToolchain (w : World) (t : Toolchain) (source : RuntimeSource) (platform : Option String) :
    Except Failure (Option Candidate) :=
  (t.findTool w "java" platform).map fun java? =>
    java?.map fun java => ⟨java.toString, source, some t.label⟩

/-- What a search gives of the first thing of which it gives anything, up to its first failure. -/
def firstSome (search : α → Except Failure (Option β)) : List α → Except Failure (Option β)
  | [] => .ok none
  | x :: rest =>
    match search x with
    | .error e => .error e
    | .ok (some found) => .ok (some found)
    | .ok none => firstSome search rest

/-- The runtime of the first of some toolchains whose launcher is there. -/
def firstOf (w : World) (source : RuntimeSource) (platform : Option String)
    (ts : List Toolchain) : Except Failure (Option Candidate) :=
  firstSome (fun t => ofToolchain w t source platform) ts

/-- The first managed toolchain of a version whose launcher is there. -/
def managed (w : World) (c : Context) (version : String) : Except Failure (Option Candidate) :=
  match c.toolchains.find jdk [("version", version)] with
  | .error e => .error e
  | .ok ts => firstOf w .toolchain c.platform ts

/-- The toolchain selected for the build, if its launcher is there. -/
def ofBuildContext (w : World) (c : Context) : Except Failure (Option Candidate) :=
  firstOf w .buildContext c.platform (c.toolchains.forBuild jdk).toList

/-- The runtime that a toolchain rule finds. -/
def ofToolchainRule (w : World) (c : Context) : Rule → Except Failure (Option Candidate)
  | .explicitHome => .ok none
  | .managed version => managed w c version
  | .buildContext => ofBuildContext w c

/-- The rules that look at toolchains. -/
def toolchainRules : List Rule :=
  [.managed "1.8", .managed "8", .buildContext]

/-- The whole chain. -/
def chain : List Rule :=
  .explicitHome :: toolchainRules

/-- Whether a toolchain rule finds a runtime. The rules are tried up to the first that does. -/
def anyToolchain (w : World) (c : Context) : List Rule → Except Failure Bool
  | [] => .ok false
  | r :: rest =>
    match ofToolchainRule w c r with
    | .error e => .error e
    | .ok (some _) => .ok true
    | .ok none => anyToolchain w c rest

/-- The runtime of the home given as a parameter. That a toolchain is passed over for it is told. -/
def ofExplicitHome (c : Context) : Action (Option Candidate) := do
  match c.java8Home with
  | none => return none
  | some home =>
    let w ← get
    if ← Action.ofExcept (anyToolchain w c toolchainRules) then
      logAs logger .warning ("Toolchains are ignored, 'java8home' parameter is set to "
        ++ home.toString)
    return some ⟨(javaExecutable home c.platform).toString, .explicit, none⟩

/-- The runtime that a rule finds. -/
def ofRule (c : Context) : Rule → Action (Option Candidate)
  | .explicitHome => ofExplicitHome c
  | r => do
    let w ← get
    Action.ofExcept (ofToolchainRule w c r)

/-- The host runtime; without a home the launcher is left to the command search. -/
def ofHost (c : Context) : Candidate :=
  match c.host.home with
  | none => ⟨"java", .host, none⟩
  | some home => ⟨(javaExecutable home c.platform).toString, .host, none⟩

/-- Whether the toolchain of a candidate is worth telling. -/
def told (c : Candidate) : Option String :=
  c.toolchain.filter (· ≠ "")

/-- The first runtime that the rules find, or the host runtime. -/
def resolve (c : Context) : List Rule → Action Candidate
  | [] => return ofHost c
  | r :: rest => do
    match ← ofRule c r with
    | some found =>
      match told found with
      | some t => logAs logger .info ("Toolchain in retrolambda-runner: " ++ t)
      | none => pure ()
      return found
    | none => resolve c rest

end Resolution

end Downlevel

import Downlevel.Parameters
import Downlevel.Result
import Downlevel.World.Modules
/-!
# Processing in the same process

An entry point is a function of a module that takes the properties of a run. It is given by name and
loaded when it is needed, or given as loaded before. Whatever goes wrong on the way to it or in it is
one kind of failure.
-/
namespace Downlevel.Embedded

/-- The logger of embedded runs. -/
def logger : String := "retrolambda_runner.process.backends.embedded"

/-- The name of the backend. -/
def name : String := "embedded"

/-- A function that was loaded: where it is from, how long it takes, and what it raises. -/
structure Entry where
  target : String
  seconds : Float
  raised : Option Failure

/-- Where the processing of classes starts. -/
inductive EntryPoint where
  | named (spec : String)
  | loaded (entry : Entry)

/-- The name of an entry point. -/
def EntryPoint.name : EntryPoint → String
  | named spec => spec
  | loaded e => e.target

/-- A fault of a wrong kind of value. -/
def typeFault (message : String) : Failure :=
  ⟨.foreign "TypeError" message, []⟩

/-- The module and the attributes of a name: what stands before and after its first colon. -/
def splitSpec (spec : String) : Except Failure (String × String) :=
  let cs := spec.toList
  let module_ := cs.takeWhile (· ≠ ':')
  let rest := cs.drop (module_.length + 1)
  if module_.length = cs.length || module_.isEmpty || rest.isEmpty then
    .error (typeFault
      ("Entry point must look like 'module:callable', got " ++ Text.quoted spec))
  else .ok (String.ofList module_, String.ofList rest)

/-- Loads the function that a name stands for. -/
def load (w : World) (spec : String) : Except Failure Entry :=
  match splitSpec spec with
  | .error e => .error e
  | .ok (module_, attributes) =>
    match Modules.member w module_ (Text.parts '.' attributes) with
    | .error e => .error e
    | .ok m =>
      match m.calling with
      | some c => .ok ⟨module_ ++ ":" ++ attributes, c.seconds, c.raised⟩
      | none => .error (typeFault ("Entry point " ++ Text.quoted spec ++ " is not callable"))

/-- The function of an entry point. -/
def EntryPoint.entry (w : World) : EntryPoint → Except Failure Entry
  | named spec => load w spec
  | loaded e => .ok e

/-- Calls a function with properties. The call is noted, and time passes. -/
def call (e : Entry) (properties : List (String × String)) : Action Unit := do
  modify fun w => { w with
    calls := w.calls ++ [EntryCall.mk e.target properties]
    clock := w.clock + e.seconds }
  match e.raised with
  | some failure => throw failure
  | none => return

/-- Runs a configuration through an entry point. -/
def run (p : EntryPoint) (config : BuildConfig) : Action Result := do
  logAs logger .info "Processing classes with Retrolambda"
  let start ← Action.view (·.clock)
  (do let e ← Action.ofExcept (p.entry (← get))
      call e config.properties : Action Unit).orFail (fun f => !f.isExit) fun e =>
    .because (.about .embeddedCall ("Failed to run Retrolambda: " ++ e.fault.text)
      (some (.text p.name))) e
  let stop ← Action.view (·.clock)
  return { backend := some name, duration := stop - start }

end Downlevel.Embedded

import Downlevel.CommandLine.Toolkit
/-!
# Reading command lines

The toolkit that the program runs with here. It answers a question for the help or the version, complains
of a wrong command line, and checks the paths that are given.
-/
namespace Downlevel.CommandLine

namespace Outcome

/-- The outcome of an order to stop with a text: a number is the exit code, any other text is
printed. -/
def ofExit (text : String) : Outcome :=
  let (sign, digits) : Int × List Char := match text.toList with
    | '-' :: ds => (-1, ds)
    | ds => (1, ds)
  if text = "" then { exitCode := 0 }
  else if !digits.isEmpty && digits.all Char.isDigit then
    { exitCode := sign * Int.ofNat (Text.digitsValue digits) }
  else { exitCode := 1, output := text ++ "\n" }

/-- The outcome of a failure that no step handled. -/
def ofFailure (f : Failure) : Outcome :=
  match f.fault with
  | .stop "SystemExit" text => ofExit text
  | .stop "KeyboardInterrupt" _ => { exitCode := 1, errors := "\nAborted!\n" }
  | .foreign "EOFError" _ => { exitCode := 1, errors := "\nAborted!\n" }
  | _ => { exitCode := 1, failure := some f }

/-- The outcome of a wrong command line. -/
def ofMisuse (scope : Scope) (m : Misuse) : Outcome :=
  { exitCode := 2, errors := m.report scope }

end Outcome

namespace Reader

/-- What is wrong with a path, if it is to be followed. -/
def pathMisuse? (w : World) (operand : Operand) (path : String) : Option PathMisuse :=
  let node? := match w.tree.locateText w.cwd path with
    | .ok place => w.tree.find? place
    | .error _ => none
  match operand, node? with
  | .file, none => some .missingFile
  | .file, some .directory => some .directory
  | .directory, some (.file _ _ _) => some .file
  | _, _ => none

/-- The version of the program as it is printed. -/
def version (w : World) : Outcome :=
  match w.distributionVersion with
  | some v => { exitCode := 0, output := programName ++ ", version " ++ v ++ "\n" }
  | none => Outcome.ofFailure ⟨.foreign "RuntimeError"
      (Text.quoted programName ++ " is not installed. Try passing 'package_name' instead."), []⟩

/-- The answer if the help or the version is asked for. -/
def answer? (w : World) (scope : Scope) (line : Line) : Option Outcome :=
  (line.options.find? fun s => s = .version || s = .help).map fun s =>
    if s = .version then version w else { exitCode := 0, output := scope.help }

/-- What is wrong with the value of an option. -/
def misuse? (w : World) (line : Line) (s : Switch) : Option Misuse :=
  match s.operand?, line.value? s with
  | some operand, some path => (pathMisuse? w operand path).map (.badPath s path)
  | _, _ => none

/-- Reads the command line of a scope and checks it. The options are checked in the order in which
they were first given. -/
def read (w : World) (scope : Scope) (words : List String) : Except Outcome Line :=
  match Line.parse scope words with
  | .error m => .error (.ofMisuse scope m)
  | .ok line =>
    match answer? w scope line with
    | some outcome => .error outcome
    | none =>
      match line.options.findSome? (misuse? w line) with
      | some m => .error (.ofMisuse scope m)
      | none =>
        if scope ≠ .program ∧ !line.arguments.isEmpty then
          .error (.ofMisuse scope (.extraArguments line.arguments))
        else .ok line

/-- The command of a name. A name that looks like an option is read as one first. -/
def command (w : World) (name : String) (rest : List String) : Except Outcome Command :=
  match Command.ofName? name with
  | some c => .ok c
  | none =>
    let unknown := Outcome.ofMisuse .program (.unknownCommand name)
    if Line.isOption name then
      match read w .program (name :: rest) with
      | .error outcome => .error outcome
      | .ok _ => .error unknown
    else .error unknown

/-- Reads the words of a call. -/
def program (w : World) (words : List String) : Except Outcome (Line × Command × List String) := do
  if words.isEmpty then throw (.ofMisuse .program .noArguments)
  let line ← read w .program words
  match line.arguments with
  | [] => throw (.ofMisuse .program .missingCommand)
  | name :: rest => return (line, ← command w name rest, rest)

end Reader

/-- The toolkit that the program runs with here. -/
def Toolkit.standard : Toolkit where
  program := Reader.program
  command w c := Reader.read w (.command c)
  failed := Outcome.ofFailure
  renderer := .standard

end Downlevel.CommandLine

import Downlevel.Data
/-!
# Failures

A failure is a fault and the faults that led to it, the nearest first. Faults of a run carry a
message and ordered details; the others are refused fields, texts that their format does not
allow, refusals of the operating system, and whatever a called function raised.
-/
namespace Downlevel

/-- What a run can fail of. -/
inductive RunFaultKind where
  | general
  | configuration
  | parameters
  | toolchains
  | retrieval
  | notPublished
  | forkedProcess
  | embeddedCall
  | classpathFile
  deriving DecidableEq, Repr

/-- The printed name of a kind of run fault. -/
def RunFaultKind.name : RunFaultKind → String
  | .general => "RetrolambdaError"
  | .configuration => "ConfigurationError"
  | .parameters => "ConfigValidationError"
  | .toolchains => "ToolchainError"
  | .retrieval => "ArtifactRetrievalError"
  | .notPublished => "ArtifactNotPublishedError"
  | .forkedProcess => "ForkedProcessError"
  | .embeddedCall => "EmbeddedInvocationError"
  | .classpathFile => "ClasspathFileError"

/-- The detail in which a kind of run fault names its subject. -/
def RunFaultKind.subjectKey : RunFaultKind → Option String
  | .general => none
  | .configuration => some "config_key"
  | .parameters => some "config_key"
  | .toolchains => some "toolchains_file"
  | .retrieval => some "coordinates"
  | .notPublished => some "coordinates"
  | .forkedProcess => some "return_code"
  | .embeddedCall => some "entry_point"
  | .classpathFile => some "path"

/-- All kinds of run faults. -/
def RunFaultKind.all : List RunFaultKind :=
  [.general, .configuration, .parameters, .toolchains, .retrieval, .notPublished, .forkedProcess,
   .embeddedCall, .classpathFile]

/-- The details of a fault in the order in which they were set. -/
abbrev Details := List (String × Data)

/-- Sets a detail: an old value is replaced in its place, a new one goes to the end. -/
def Details.set (key : String) (value : Data) : Details → Details
  | [] => [(key, value)]
  | (k, v) :: rest => if k = key then (k, value) :: rest else (k, v) :: Details.set key value rest

/-- What is known of a process that failed. Without a return code it never started. -/
structure ProcessReport where
  command : List String := []
  returnCode : Option Int := none
  stdout : String := ""
  stderr : String := ""
  deriving DecidableEq, Repr

/-- A fault of a run. -/
structure RunFault where
  kind : RunFaultKind
  message : String
  details : Details := []
  report : ProcessReport := {}

/-- A run fault about a subject. An empty subject is not recorded. -/
def RunFault.about (kind : RunFaultKind) (message : String) (subject : Option Data)
    (details : Details := []) : RunFault :=
  { kind, message
    details := match kind.subjectKey, subject with
      | some key, some value => if value.isTruthy then details.set key value else details
      | _, _ => details }

/-- A fault of a forked process. A return code is recorded whatever it is. -/
def RunFault.ofProcess (message : String) (report : ProcessReport) (details : Details := []) :
    RunFault :=
  { kind := .forkedProcess, message, report
    details := match report.returnCode with
      | some code => details.set "return_code" (.int code)
      | none => details }

/-- The text of a run fault: the message, then the details if there are any. -/
def RunFault.text (f : RunFault) : String :=
  if f.details.isEmpty then f.message
  else f.message ++ " - Details: " ++ Data.print (.map (f.details.map fun d => (.text d.1, d.2)))

/-- The reasons for which the operating system refuses. Those that need no name here are known by
their number and wording. -/
inductive Errno where
  | noEntry
  | denied
  | exists
  | notDirectory
  | isDirectory
  | invalid
  | noSpace
  | nameTooLong
  | notEmpty
  | tooManyLinks
  | other (number : Nat) (wording : String)
  deriving DecidableEq, Repr

/-- The number of a reason. -/
def Errno.number : Errno → Nat
  | .noEntry => 2
  | .denied => 13
  | .exists => 17
  | .notDirectory => 20
  | .isDirectory => 21
  | .invalid => 22
  | .noSpace => 28
  | .nameTooLong => 36
  | .notEmpty => 39
  | .tooManyLinks => 40
  | .other n _ => n

/-- The wording of a reason. -/
def Errno.message : Errno → String
  | .noEntry => "No such file or directory"
  | .denied => "Permission denied"
  | .exists => "File exists"
  | .notDirectory => "Not a directory"
  | .isDirectory => "Is a directory"
  | .invalid => "Invalid argument"
  | .noSpace => "No space left on device"
  | .nameTooLong => "File name too long"
  | .notEmpty => "Directory not empty"
  | .tooManyLinks => "Too many levels of symbolic links"
  | .other _ wording => wording

/-- The numbers of the refusals that a look at a path takes for absence: there is no such entry, the
file is not open, there is no directory on the way, or there are too many links. -/
def absenceNumbers : List Nat := [2, 9, 20, 40]

/-- Whether a look at a path takes a refusal for absence. -/
def Errno.isAbsence (e : Errno) : Bool :=
  absenceNumbers.contains e.number

/-- The printed name of the refusals with a number. -/
def osFaultName (number : Int) : String :=
  match number with
  | 1 => "PermissionError"
  | 2 => "FileNotFoundError"
  | 3 => "ProcessLookupError"
  | 4 => "InterruptedError"
  | 10 => "ChildProcessError"
  | 11 => "BlockingIOError"
  | 13 => "PermissionError"
  | 17 => "FileExistsError"
  | 20 => "NotADirectoryError"
  | 21 => "IsADirectoryError"
  | 32 => "BrokenPipeError"
  | 103 => "ConnectionAbortedError"
  | 104 => "ConnectionResetError"
  | 108 => "BrokenPipeError"
  | 110 => "TimeoutError"
  | 111 => "ConnectionRefusedError"
  | 114 => "BlockingIOError"
  | 115 => "BlockingIOError"
  | _ => "OSError"

/-- The printed names of refusals of the operating system. -/
def osFaultNames : List String :=
  ["OSError", "IOError", "EnvironmentError", "PermissionError", "FileNotFoundError",
   "ProcessLookupError", "InterruptedError", "ChildProcessError", "BlockingIOError",
   "FileExistsError", "NotADirectoryError", "IsADirectoryError", "BrokenPipeError",
   "ConnectionError", "ConnectionAbortedError", "ConnectionResetError", "TimeoutError",
   "ConnectionRefusedError", "SameFileError"]

/-- A part of the place of a refused field: a field name or a position. -/
inductive FieldKey where
  | name (value : String)
  | index (value : Nat)
  deriving DecidableEq, Repr

/-- A field that was refused, and the kind of the refusal. -/
structure Issue where
  place : List FieldKey
  kind : String
  deriving DecidableEq, Repr

/-- A fault. -/
inductive Fault where
  /-- A fault of a run. -/
  | run (fault : RunFault)
  /-- Refused fields of a record. -/
  | invalid (title : String) (issues : List Issue)
  /-- A text that its format does not allow. -/
  | malformed (reason : String)
  /-- A refusal of the operating system about a path, or two of them. -/
  | os (errno : Errno) (path : String) (target : Option String)
  /-- A fault from elsewhere, known by its printed name and its text. -/
  | foreign (name message : String)
  /-- An order to stop, known by its printed name and its text. No step of a run handles it. -/
  | stop (name message : String)

namespace Fault

/-- The fault of a path or a command with a null character, which the system is never asked about. -/
def nullByte : Fault :=
  foreign "ValueError" "embedded null byte"

/-- The printed name of a fault. -/
def name : Fault → String
  | run f => f.kind.name
  | invalid _ _ => "ValidationError"
  | malformed _ => "ParseError"
  | os errno _ _ => osFaultName errno.number
  | foreign n _ => n
  | stop n _ => n

/-- The text of a refusal of the operating system. -/
def osText (number : String) (message : String) (path target : Option String) : String :=
  "[Errno " ++ number ++ "] " ++ message ++ match path, target with
    | some p, some t => ": " ++ p ++ " -> " ++ t
    | some p, none => ": " ++ p
    | none, _ => ""

/-- The text of a fault. -/
def text : Fault → String
  | run f => f.text
  | invalid title issues =>
    toString issues.length ++ " validation error" ++ (if issues.length = 1 then "" else "s")
      ++ " for " ++ title
  | malformed reason => reason
  | os errno path target =>
    osText (toString errno.number) errno.message (some (Text.quoted path))
      (target.map Text.quoted)
  | foreign _ message => message
  | stop _ message => message

/-- A refusal of the operating system that is about no path. -/
def unnamed (errno : Errno) : Fault :=
  foreign (osFaultName errno.number) (osText (toString errno.number) errno.message none none)

/-- Whether a fault is a refusal of the operating system. -/
def isOs : Fault → Bool
  | os _ _ _ => true
  | foreign n _ => osFaultNames.contains n
  | _ => false

/-- Whether a fault is of a text that a form in bytes does not allow, or of such bytes. -/
def isUnicode : Fault → Bool
  | foreign n _ => ["UnicodeError", "UnicodeEncodeError", "UnicodeDecodeError",
      "UnicodeTranslateError"].contains n
  | _ => false

/-- Whether a fault is of a run. -/
def isRun : Fault → Bool
  | run _ => true
  | _ => false

/-- Whether a fault is an order to stop. -/
def isExit : Fault → Bool
  | stop _ _ => true
  | _ => false

/-- The printed names of the orders to stop that a request may name. -/
def stopNames : List String :=
  ["KeyboardInterrupt", "SystemExit", "GeneratorExit", "BaseException", "BaseExceptionGroup"]

/-- The fault of a printed name with arguments. The arguments of a refusal of the operating system
are its number, its wording, a path, a number of no use here and a second path. -/
def ofArguments (className : String) (args : List Data) : Fault :=
  let whole : String := match args with
    | [] => ""
    | [a] => if className = "KeyError" then a.print else a.plain
    | _ => "(" ++ ", ".intercalate (args.map Data.print) ++ ")"
  if osFaultNames.contains className then
    let ownName := className = "OSError" || className = "IOError" || className = "EnvironmentError"
    match args with
    | number :: wording :: rest =>
      if 3 < rest.length then foreign (if ownName then "OSError" else className) whole
      else
        let path := rest.head?.bind fun d => match d with | .null => none | d => some d.print
        let target := (rest.drop 2).head?.bind fun d => match d with | .null => none | d => some d.print
        let shown := match number with
          | .int n => if ownName then osFaultName n else className
          | _ => if ownName then "OSError" else className
        foreign shown (osText number.plain wording.plain path target)
    | _ => foreign (if ownName then "OSError" else className) whole
  else if stopNames.contains className then stop className whole
  else foreign className whole

end Fault

/-- A failure: a fault and the faults that led to it, the nearest first. -/
structure Failure where
  fault : Fault
  causes : List Fault := []

namespace Failure

/-- A failure without a cause. -/
def ofRun (f : RunFault) : Failure :=
  ⟨.run f, []⟩

/-- A run fault that another failure led to. -/
def because (f : RunFault) (cause : Failure) : Failure :=
  ⟨.run f, cause.fault :: cause.causes⟩

/-- The text of a failure, then a line for each fault that led to it. -/
def chainText (f : Failure) : String :=
  "\n".intercalate (f.fault.text :: f.causes.map fun c =>
    "Caused by: " ++ c.name ++ ": " ++ c.text)

end Failure

end Downlevel

import Downlevel.Log.Conversion
import Downlevel.Log.Level
import Downlevel.Text.Blank
import Downlevel.Text.Digit
/-!
# Layout patterns of log lines

A pattern is text with fields such as `%(name)s`: a percent sign, a field name in parentheses, flags,
a width, a precision and a kind. Two percent signs stand for one. A pattern is accepted if it has a
field somewhere.
-/
namespace Downlevel.Log

open Text (CodePoints codePoints)

/-- Where in the program a message comes from, and which thread of which process it is. -/
structure Origin where
  pathName : String := ""
  fileName : String := ""
  moduleName : String := ""
  functionName : String := ""
  lineNumber : Nat := 0
  processName : String := "MainProcess"
  process : Nat := 0
  threadName : String := "MainThread"
  thread : Nat := 0
  /-- When the process began to keep a log, in seconds since the epoch. -/
  start : Float := 0.0

/-- What is known of a message when it is written. The time is in seconds since the epoch, and the zone
tells how many seconds local time is ahead then. -/
structure Record where
  logger : String
  level : Level
  message : CodePoints
  time : Float
  zone : Int
  origin : Origin

/-- A piece of a pattern. -/
inductive Piece where
  | plain (c : Char)
  | field (name : String) (shape : Shape)
  deriving DecidableEq, Repr

/-- The number at the head of a text, if there is one. -/
def leadingNumber (cs : List Char) : Option Nat × List Char :=
  let ds := cs.takeWhile Char.isDigit
  (if ds.isEmpty then none else some (Text.digitsValue ds), cs.dropWhile Char.isDigit)

/-- Whether a character is a flag of a field. -/
def isFlag (c : Char) : Bool :=
  c == '#' || c == '0' || c == '+' || c == ' ' || c == '-'

/-- The part of a field after its name: how it is laid out, and the rest. A letter for the length of a
number is passed over. -/
def readShape (cs : List Char) : Option (Shape × List Char) :=
  let flags := cs.takeWhile isFlag
  let (width, afterWidth) := leadingNumber (cs.dropWhile isFlag)
  let (precision, afterPrecision) := match afterWidth with
    | '.' :: rest => let r := leadingNumber rest; (some (r.1.getD 0), r.2)
    | _ => (none, afterWidth)
  let afterLength := match afterPrecision with
    | c :: rest => if "hlL".toList.contains c then rest else c :: rest
    | [] => []
  match afterLength with
  | kind :: rest =>
    if "diouxXeEfFgGcrsa".toList.contains kind then
      some (⟨flags, width, precision, kind⟩, rest)
    else none
  | [] => none

/-- Whether a character may stand in the name of a field. -/
def isNameChar (c : Char) : Bool :=
  c.isAlphanum || c == '_' || 0x80 ≤ c.toNat

/-- The field at the head of a text that starts with a percent sign. -/
def readField (cs : List Char) : Option (Piece × List Char) :=
  match cs with
  | '%' :: '(' :: rest =>
    let name := rest.takeWhile (· ≠ ')')
    match rest.drop name.length with
    | ')' :: more => (readShape more).map fun r => (.field (String.ofList name) r.1, r.2)
    | _ => none
  | _ => none

/-- Whether a named field, or a doubled sign after a name, stands at the head of a text. -/
def startsField (cs : List Char) : Bool :=
  match cs with
  | '%' :: '(' :: rest =>
    let name := rest.takeWhile isNameChar
    match rest.drop name.length with
    | ')' :: more =>
      !name.isEmpty &&
        let afterFlags := more.dropWhile isFlag
        let afterWidth := match afterFlags with
          | '*' :: r => r
          | r => (leadingNumber r).2
        let afterPrecision := match afterWidth with
          | '.' :: '*' :: r => r
          | '.' :: r => if (leadingNumber r).1.isSome then (leadingNumber r).2 else '.' :: r
          | r => r
        match afterPrecision with
        | kind :: _ => "diouxXeEfFgGcCrRsSaADIOU%".toList.contains kind
        | [] => false
    | _ => false
  | _ => false

/-- Whether a pattern has a field somewhere. -/
def accepted : List Char → Bool
  | [] => false
  | c :: rest => startsField (c :: rest) || accepted rest

/-- The pieces of a pattern; nothing if a percent sign stands alone. -/
def pieces? (fuel : Nat) (cs : List Char) : Option (List Piece) :=
  match fuel, cs with
  | _, [] => some []
  | 0, _ => none
  | fuel + 1, '%' :: rest =>
    match rest with
    | '%' :: more => (pieces? fuel more).map (.plain '%' :: ·)
    | _ =>
      match readField ('%' :: rest) with
      | some (p, more) => (pieces? fuel more).map (p :: ·)
      | none => none
  | fuel + 1, c :: rest => (pieces? fuel rest).map (.plain c :: ·)

/-- The civil date of a day counted from the first of January 1970. -/
def civilDate (day : Int) : Nat × Nat × Nat :=
  let z := day + 719468
  let era := z / 146097
  let doe := (z % 146097).toNat
  let yoe := (doe - doe / 1460 + doe / 36524 - doe / 146096) / 365
  let doy := doe - (365 * yoe + yoe / 4 - yoe / 100)
  let mp := (5 * doy + 2) / 153
  let d := doy - (153 * mp + 2) / 5 + 1
  let m := if mp < 10 then mp + 3 else mp - 9
  ((Int.ofNat yoe + era * 400 + (if m ≤ 2 then 1 else 0)).toNat, m, d)

/-- The whole seconds of a time. -/
def wholeSeconds (time : Float) : Int :=
  if time < 0.0 then -Int.ofNat (-time.floor).toUInt64.toNat
  else Int.ofNat time.floor.toUInt64.toNat

/-- The thousandths of a second of a time. -/
def thousandths (time : Float) : Nat :=
  ((time - time.floor) * 1000.0).floor.toUInt64.toNat

/-- A time as local date, clock and thousandths. -/
def timeText (time : Float) (zone : Int) : String :=
  let s := wholeSeconds time + zone
  let (y, m, d) := civilDate (s / 86400)
  let clock := (s % 86400).toNat
  let two := Decimal.padDigits 2
  Decimal.padDigits 4 y ++ "-" ++ two m ++ "-" ++ two d ++ " " ++ two (clock / 3600) ++ ":"
    ++ two (clock % 3600 / 60) ++ ":" ++ two (clock % 60) ++ ","
    ++ Decimal.padDigits 3 (thousandths time)

/-- The fields of a record. -/
def Record.field? (r : Record) : String → Option FieldValue
  | "name" => some (.text (codePoints r.logger))
  | "msg" => some (.text r.message)
  | "args" => some (.other "()")
  | "levelname" => some (.text (codePoints r.level.name))
  | "levelno" => some (.whole r.level.number)
  | "pathname" => some (.text (codePoints r.origin.pathName))
  | "filename" => some (.text (codePoints r.origin.fileName))
  | "module" => some (.text (codePoints r.origin.moduleName))
  | "exc_info" => some (.other "None")
  | "exc_text" => some (.other "None")
  | "stack_info" => some (.other "None")
  | "lineno" => some (.whole r.origin.lineNumber)
  | "funcName" => some (.text (codePoints r.origin.functionName))
  | "created" => some (.real r.time)
  | "msecs" => some (.real (thousandths r.time).toFloat)
  | "relativeCreated" => some (.real ((r.time - r.origin.start) * 1000.0))
  | "thread" => some (.whole r.origin.thread)
  | "threadName" => some (.text (codePoints r.origin.threadName))
  | "processName" => some (.text (codePoints r.origin.processName))
  | "process" => some (.whole r.origin.process)
  | "message" => some (.text r.message)
  | "asctime" => some (.text (codePoints (timeText r.time r.zone)))
  | _ => none

/-- A piece filled in from a record. -/
def Piece.fill? (r : Record) : Piece → Option CodePoints
  | plain c => some [c.toNat]
  | field name shape =>
    match r.field? name with
    | none => none
    | some v => (shape.shown? v).map shape.laidOut

/-- The line of a record, if all fields of the pattern can be filled in. -/
def line? (pattern : String) (r : Record) : Option CodePoints :=
  match pieces? (pattern.length + 1) pattern.toList with
  | none => none
  | some ps => (ps.mapM (Piece.fill? r)).map List.flatten

end Downlevel.Log

import Downlevel.Data.Json
import Downlevel.Fault
import Downlevel.Path
/-!
# Reading records

A record is read from a mapping field by field. A field is converted where its meaning is plain: a
truth value from the usual words, a number from its digits. Refused fields are collected in the order
of the record; a fault that is no refusal ends the reading at once.
-/
namespace Downlevel

/-- The reading of a field: its value, the refusals in it, or a fault that ends everything. -/
inductive Reading (α : Type) where
  | value (x : α)
  | refused (issues : List Issue)
  | broken (failure : Failure)

namespace Reading

/-- Applies a read function to a read value. Refusals add up, and the first fault wins. -/
def seq (f : Reading (α → β)) (x : Reading α) : Reading β :=
  match f, x with
  | broken e, _ => broken e
  | _, broken e => broken e
  | refused a, refused b => refused (a ++ b)
  | refused a, value _ => refused a
  | value _, refused b => refused b
  | value g, value a => value (g a)

/-- Changes a read value. -/
def map (f : α → β) : Reading α → Reading β
  | value x => value (f x)
  | refused issues => refused issues
  | broken e => broken e

/-- Puts refusals below a place. -/
def below (key : FieldKey) : Reading α → Reading α
  | refused issues => refused (issues.map fun i => { i with place := key :: i.place })
  | r => r

/-- The refusal of a whole value. -/
def refuse (kind : String) : Reading α :=
  refused [⟨[], kind⟩]

/-- The result of a record with a title. -/
def result (title : String) : Reading α → Except Failure α
  | value x => .ok x
  | refused issues => .error ⟨.invalid title issues, []⟩
  | broken e => .error e

/-- Collects the readings of a list. -/
def collect : List (Reading α) → Reading (List α)
  | [] => value []
  | r :: rest => ((value List.cons).seq r).seq (collect rest)

end Reading

namespace Field

/-- The words for true. -/
def trueWords : List String :=
  ["1", "on", "t", "true", "y", "yes"]

/-- The words for false. -/
def falseWords : List String :=
  ["0", "off", "f", "false", "n", "no"]

/-- A whole number as a truth value. -/
def boolOfInt (n : Int) : Reading Bool :=
  if n = 0 then .value false else if n = 1 then .value true else .refuse "bool_parsing"

/-- A truth value: one of the words in any ASCII case, or zero or one. -/
def bool : Data → Reading Bool
  | .bool b => .value b
  | .int n => boolOfInt n
  | .float x =>
    match (Data.float x).whole? with
    | some n => boolOfInt n
    | none => .refuse "bool_type"
  | .text s =>
    let word := String.ofList (s.toList.map Char.toLower)
    if trueWords.contains word then .value true
    else if falseWords.contains word then .value false
    else .refuse "bool_parsing"
  | _ => .refuse "bool_type"

/-- A text. -/
def text : Data → Reading String
  | .text s => .value s
  | _ => .refuse "string_type"

/-- A path. -/
def path : Data → Reading Path
  | .text s => .value (Path.ofString s)
  | _ => .refuse "path_type"

/-- The digits of a whole number in writing: single underscores may stand between digits. -/
def wholeDigits? : List Char → Option (List Char)
  | [] => some []
  | '_' :: c :: rest => if c.isDigit then wholeDigits? (c :: rest) else none
  | c :: rest => if c.isDigit then (wholeDigits? rest).map (c :: ·) else none

/-- A whole number in writing: blanks around it, a sign, digits, and zeros after a point. -/
def wholeOfText? (s : String) : Option Int :=
  let cs := Text.strip s.toList
  let (negative, body) : Bool × List Char := match cs with
    | '-' :: rest => (true, rest)
    | '+' :: rest => (false, rest)
    | _ => (false, cs)
  let front := body.takeWhile (· ≠ '.')
  let back := body.drop (front.length + 1)
  match front with
  | [] => none
  | c :: _ =>
    if c.isDigit && back.all (· == '0') then
      (wholeDigits? front).map fun ds =>
        let n := Int.ofNat (Text.digitsValue ds)
        if negative then -n else n
    else none

/-- A whole number. -/
def int : Data → Reading Int
  | .bool b => .value (if b then 1 else 0)
  | .int n => .value n
  | .float x =>
    match (Data.float x).whole? with
    | some n => .value n
    | none => .refuse (if x.isFinite then "int_from_float" else "finite_number")
  | .text s =>
    match wholeOfText? s with
    | some n => .value n
    | none => .refuse "int_parsing"
  | _ => .refuse "int_type"

/-- A number in writing. -/
def floatOfText? (s : String) : Option Float :=
  let cs := Text.strip s.toList
  let (negative, body) : Bool × List Char := match cs with
    | '-' :: rest => (true, rest)
    | '+' :: rest => (false, rest)
    | _ => (false, cs)
  let signed (x : Float) : Float := if negative then -x else x
  let word := String.ofList (body.map Char.toLower)
  if word = "inf" || word = "infinity" then some (signed (1.0 / 0.0))
  else if word = "nan" then some (0.0 / 0.0)
  else
    let whole := body.takeWhile Char.isDigit
    let afterWhole := body.drop whole.length
    let (fraction, rest) : List Char × List Char := match afterWhole with
      | '.' :: more => (more.takeWhile Char.isDigit, more.dropWhile Char.isDigit)
      | _ => ([], afterWhole)
    if (whole ++ fraction).isEmpty then none
    else
      let exponent : Option Int :=
        if rest.isEmpty then some 0
        else match Json.readExponent rest with
          | some (e, []) => some e
          | _ => none
      exponent.map fun e => signed
        (Decimal.toFloat (Text.digitsValue (whole ++ fraction)) (e - Int.ofNat fraction.length))

/-- A number. -/
def float : Data → Reading Float
  | .bool b => .value (if b then 1.0 else 0.0)
  | .int n =>
    .value (if n < 0 then -(Decimal.toFloat n.natAbs 0) else Decimal.toFloat n.natAbs 0)
  | .float x => .value x
  | .text s =>
    match floatOfText? s with
    | some x => .value x
    | none => .refuse "float_parsing"
  | _ => .refuse "float_type"

/-- Nothing, or what a reader accepts. -/
def optional (read : Data → Reading α) : Data → Reading (Option α)
  | .null => .value none
  | d => (read d).map some

/-- The items of a list with their positions as places. -/
def items (read : Data → Reading α) (xs : List Data) : Reading (List α) :=
  Reading.collect (xs.zipIdx.map fun p => (read p.1).below (.index p.2))

/-- A list. -/
def list (read : Data → Reading α) : Data → Reading (List α)
  | .list xs => items read xs
  | _ => .refuse "list_type"

/-- A fixed row of items. -/
def row (read : Data → Reading α) : Data → Reading (List α)
  | .list xs => items read xs
  | _ => .refuse "tuple_type"

/-- A mapping from texts to texts. A refused value has its key as place. -/
def textMap : Data → Reading (List (String × String))
  | .map entries => Reading.collect (entries.map fun e =>
      let key : Reading String := match e.1 with
        | .text s => .value s
        | d => (Reading.refuse "string_type").below (.name "[key]") |>.below (.name d.plain)
      let value := (text e.2).below (.name e.1.plain)
      ((Reading.value Prod.mk).seq key).seq value)
  | _ => .refuse "dict_type"

/-- One of a list of words. -/
def word (kind : String) (table : List (String × α)) : Data → Reading α
  | .text s =>
    match table.lookup s with
    | some x => .value x
    | none => .refuse kind
  | _ => .refuse kind

end Field

/-- The fields of a record that were given. -/
abbrev Fields := List (Data × Data)

namespace Fields

/-- A field that must be given. -/
def required (fs : Fields) (name : String) (read : Data → Reading α) : Reading α :=
  (match Data.field? name fs with
    | some d => read d
    | none => .refuse "missing").below (.name name)

/-- A field with a default, which is taken as it is. -/
def optional (fs : Fields) (name : String) (fallback : α) (read : Data → Reading α) : Reading α :=
  match Data.field? name fs with
  | some d => (read d).below (.name name)
  | none => .value fallback

end Fields

/-- A record from a mapping. -/
def Field.record (read : Fields → Reading α) : Data → Reading α
  | .map entries => read entries
  | _ => .refuse "model_type"

end Downlevel

import Downlevel.Decimal.Scientific
import Downlevel.Text.Quoted
/-!
# Conversions of values

A field of a pattern asks for its value in a form: as text, in quotes, as a whole number in some base,
or as a number with a point. A value that has no such form is not shown. Numbers have a sign, which
stands before the zeros that fill a width.
-/
namespace Downlevel.Log

open Text (CodePoints codePoints)

/-- The value of a field. -/
inductive FieldValue where
  | text (value : CodePoints)
  | whole (value : Nat)
  | real (value : Float)
  /-- A value that is neither text nor number, by its printed form. -/
  | other (printed : String)

/-- The layout of numbers that are written as text. -/
def plainNumber : Decimal.Layout :=
  ⟨-4, 15, 2⟩

/-- A value as text. -/
def FieldValue.plain : FieldValue → CodePoints
  | text value => value
  | whole n => codePoints (toString n)
  | real x => codePoints (plainNumber.float x)
  | other s => codePoints s

/-- A value as it is printed: a text is quoted. -/
def FieldValue.printed : FieldValue → CodePoints
  | text value => Text.quotedPoints value
  | v => v.plain

/-- A value in the form that was asked for, before it is brought to a width. -/
structure Shown where
  numeric : Bool := false
  negative : Bool := false
  /-- What tells the base of a number. -/
  mark : String := ""
  body : CodePoints

/-- How a field is to be laid out. -/
structure Shape where
  flags : List Char := []
  width : Option Nat := none
  precision : Option Nat := none
  kind : Char
  deriving DecidableEq, Repr

namespace Shape

variable (shape : Shape)

/-- Whether the form has a mark for its base, or a point in any case. -/
def alternate : Bool :=
  shape.flags.contains '#'

/-- A text, cut to the precision. -/
def cut (text : CodePoints) : Shown :=
  { body := match shape.precision with
      | some n => text.take n
      | none => text }

/-- The digits of a whole number in a base, at least as many as the precision says. -/
def digits (base n : Nat) : List Char :=
  let ds := Nat.toDigits base n
  List.replicate (shape.precision.getD 0 - ds.length) '0' ++ ds

/-- A form that is a number. -/
def number (negative : Bool) (mark : String) (cs : List Char) : Shown :=
  { numeric := true, negative, mark, body := cs.map Char.toNat }

/-- A whole number in a base other than ten. -/
def inBase (base : Nat) (mark : String) (upper : Bool) (n : Nat) : Shown :=
  let ds := shape.digits base n
  number false (if shape.alternate then mark else "") (if upper then ds.map Char.toUpper else ds)

/-- A number with a point. -/
def pointed (x : Float) : Shown :=
  let places := shape.precision.getD 6
  let shown (negative : Bool) (body : String) : Shown :=
    number negative "" (if shape.kind.isUpper then body.toList.map Char.toUpper else body.toList)
  match Decimal.Binary.ofFloat x with
  | .notANumber => shown false "nan"
  | .infinite negative => shown negative "inf"
  | .finite negative m q =>
    let v := Decimal.Quotient.ofBinary m q
    shown negative (match shape.kind.toLower with
      | 'f' => Decimal.positional shape.alternate places v
      | 'e' => Decimal.scientific shape.alternate places v
      | _ => Decimal.general shape.alternate (max places 1) v)

/-- The whole part of a number with a point. -/
def wholePart (x : Float) : Shown :=
  let n := x.abs.floor.toUInt64.toNat
  number (x < 0.0 && n ≠ 0) "" (shape.digits 10 n)

/-- A value in the form that is asked for. -/
def shown? (v : FieldValue) : Option Shown :=
  if shape.kind = 's' then some (shape.cut v.plain)
  else if shape.kind = 'r' then some (shape.cut v.printed)
  else if shape.kind = 'a' then some (shape.cut (Text.ascii v.printed))
  else match v with
    | .whole n =>
      match shape.kind with
      | 'd' | 'i' | 'u' => some (number false "" (shape.digits 10 n))
      | 'o' => some (shape.inBase 8 "0o" false n)
      | 'x' => some (shape.inBase 16 "0x" false n)
      | 'X' => some (shape.inBase 16 "0X" true n)
      | 'c' => if n < 0x110000 then some { body := [n] } else none
      | _ => some (shape.pointed n.toFloat)
    | .real x =>
      match shape.kind with
      | 'd' | 'i' | 'u' => some (shape.wholePart x)
      | 'o' | 'x' | 'X' | 'c' => none
      | _ => some (shape.pointed x)
    | .text value => if shape.kind = 'c' && value.length = 1 then some { body := value } else none
    | .other _ => none

/-- Brings a form to the width: to the left with a minus flag, numbers with zeros if asked for. -/
def laidOut (s : Shown) : CodePoints :=
  let sign := if s.negative then "-"
    else if s.numeric && shape.flags.contains '+' then "+"
    else if s.numeric && shape.flags.contains ' ' then " "
    else ""
  let front := codePoints (sign ++ s.mark)
  let n := shape.width.getD 0 - (front ++ s.body).length
  if shape.flags.contains '-' then front ++ s.body ++ List.replicate n ' '.toNat
  else if s.numeric && shape.flags.contains '0' then
    front ++ List.replicate n '0'.toNat ++ s.body
  else List.replicate n ' '.toNat ++ front ++ s.body

end Shape

end Downlevel.Log

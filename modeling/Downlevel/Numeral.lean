import Downlevel.Fault
import Downlevel.Text.Blank
import Downlevel.Text.Digit
/-!
# Numerals

Whole numbers in writing, in any base up to sixteen. Decimal numerals are read up to a limit on their
digits, because the work grows with the square of their length.
-/
namespace Downlevel.Numeral

/-- The greatest number of digits of a decimal numeral that is read. -/
def digitLimit : Nat := 4300

/-- The fault of a value that is of the right kind and still cannot be used. -/
def valueFault (message : String) : Failure :=
  ⟨.foreign "ValueError" message, []⟩

/-- The number written by decimal digits, within the limit. -/
def ofDigits (ds : List Char) : Except Failure Nat :=
  if digitLimit < ds.length then
    .error (valueFault ("Exceeds the limit (4300 digits) for integer string conversion: "
      ++ "value has " ++ toString ds.length
      ++ " digits; use sys.set_int_max_str_digits() to increase the limit"))
  else .ok (Text.digitsValue ds)

/-- The value of a digit in bases above ten. -/
def digit? (c : Char) : Option Nat :=
  if 'a' ≤ c && c ≤ 'z' then some (c.toNat - 'a'.toNat + 10)
  else if 'A' ≤ c && c ≤ 'Z' then some (c.toNat - 'A'.toNat + 10)
  else Text.digitValue? c

/-- The number written by digits of a base, at least one. -/
def inBase? (base : Nat) (ds : List Char) : Option Nat :=
  if ds.isEmpty then none
  else ds.foldlM (fun n c => match digit? c with
    | some d => if d < base then some (base * n + d) else none
    | none => none) 0

/-- The number that a text writes in a base, with blanks around it and a sign allowed. -/
def parse (base : Nat) (cs : List Char) : Except Failure Int :=
  let body := Text.strip cs
  let (negative, digits) : Bool × List Char := match body with
    | '-' :: rest => (true, rest)
    | '+' :: rest => (false, rest)
    | _ => (false, body)
  let signed (n : Nat) : Int := if negative then -(Int.ofNat n) else Int.ofNat n
  match inBase? base digits with
  | none => .error (valueFault ("invalid literal for int() with base " ++ toString base ++ ": "
      ++ Text.quoted (String.ofList cs)))
  | some n => if base = 10 then (ofDigits digits).map signed else .ok (signed n)

end Downlevel.Numeral

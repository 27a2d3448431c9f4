import Downlevel.Decimal.Fixed
/-!
# A fixed number of digits

The exact value of a number is rounded to the nearest decimal with the given number of digits, a half to
the even neighbour, and laid out with an exponent, or with one only where it is needed.
-/
namespace Downlevel.Decimal

/-- A number to the given number of digits, at least one, and the place of the first of them. Zero has
its first digit before the point. -/
def rounded (count : Nat) (v : Quotient) : List Char × Int :=
  if v.num = 0 then (List.replicate count '0', 0)
  else
    let k := v.exponent - (Int.ofNat count - 1)
    let n := (v.scaleDown k).roundEven
    -- Rounding up may give one digit more, and that is a power of ten.
    if digitCount n ≤ count then ((padDigits count n).toList, v.exponent)
    else ((padDigits count (n / 10)).toList, v.exponent + 1)

/-- Digits without the zeros at their end. -/
def trimmed (ds : List Char) : List Char :=
  (ds.reverse.dropWhile (· == '0')).reverse

/-- A point and the digits after it; without digits the point stands only if it always does. -/
def fraction (always : Bool) (ds : List Char) : List Char :=
  if ds.isEmpty && !always then [] else '.' :: ds

/-- Digits with a point after the first and an exponent of at least two digits. -/
def withExponent (always : Bool) (ds : List Char) (e : Int) : String :=
  String.ofList (ds.take 1 ++ fraction always (ds.drop 1))
    ++ (if e < 0 then "e-" else "e+") ++ padDigits 2 e.natAbs

/-- A number with so many places after the point. -/
def positional (always : Bool) (places : Nat) (v : Quotient) : String :=
  let text := pointed places (v.scaleDown (-(Int.ofNat places))).roundEven
  if places = 0 && always then text ++ "." else text

/-- A number with an exponent and so many places after the point. -/
def scientific (always : Bool) (places : Nat) (v : Quotient) : String :=
  let (ds, e) := rounded (places + 1) v
  withExponent always ds e

/-- A number in so many digits, with an exponent if it is very small or if not all the digits before the
point are known. Zeros at the end are left out unless a point always stands. -/
def general (always : Bool) (count : Nat) (v : Quotient) : String :=
  let (ds, e) := rounded count v
  let kept (ds : List Char) : List Char := if always then ds else trimmed ds
  if e < -4 || Int.ofNat count ≤ e then
    withExponent always (ds.take 1 ++ kept (ds.drop 1)) e
  else if e < 0 then
    String.ofList ("0.".toList ++ List.replicate ((-e).toNat - 1) '0' ++ kept ds)
  else
    String.ofList (ds.take (e.toNat + 1) ++ fraction always (kept (ds.drop (e.toNat + 1))))

end Downlevel.Decimal

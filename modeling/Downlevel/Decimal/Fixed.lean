import Downlevel.Decimal.Shortest
/-!
# A fixed number of places

The exact value of a double is rounded to the nearest decimal with the given number of places; a
half goes to the even neighbour.
-/
namespace Downlevel.Decimal

/-- The digits of a scaled number with a point before the last `places` of them. -/
def pointed (places n : Nat) : String :=
  let ds := (padDigits (places + 1) n).toList
  let whole := ds.take (ds.length - places)
  if places = 0 then String.ofList whole
  else String.ofList (whole ++ '.' :: ds.drop (ds.length - places))

/-- The text of a double with the given number of places. -/
def fixed (places : Nat) (x : Float) : String :=
  match Binary.ofFloat x with
  | .notANumber => "nan"
  | .infinite negative => if negative then "-inf" else "inf"
  | .finite negative m q =>
    (if negative then "-" else "")
      ++ pointed places ((Quotient.ofBinary m q).scaleDown (-(Int.ofNat places))).roundEven

end Downlevel.Decimal

import Downlevel.Decimal.Binary
/-!
# The shortest decimal that reads back

A double stands for every real number that rounds to it. Its shortest decimal is the one with the
fewest digits in that interval; of two such decimals the one nearer to the double is taken, and at
equal distance the one with the even last digit.
-/
namespace Downlevel.Decimal

/-- A decimal number: `digits * 10 ^ exponent`. -/
structure Scaled where
  digits : Nat
  exponent : Int
  deriving DecidableEq, Repr

/-- The reals that round to one double: its ends, and whether these belong to it. -/
structure Interval where
  low : Quotient
  high : Quotient
  closed : Bool
  deriving DecidableEq, Repr

/-- The interval of `m * 2 ^ q`. Below a power of two the doubles lie twice as close. -/
def Interval.ofBinary (m : Nat) (q : Int) : Interval :=
  let gap := if m = Nat.pow 2 52 ∧ -1074 < q then 1 else 2
  { low := Quotient.ofBinary (4 * m - gap) (q - 2)
    high := Quotient.ofBinary (4 * m + 2) (q - 2)
    closed := m % 2 = 0 }

/-- Whether a quotient lies in the interval. -/
def Interval.contains (i : Interval) (v : Quotient) : Bool :=
  if i.closed then i.low.le v && v.le i.high else i.low.lt v && v.lt i.high

/-- The decimal in the interval on the grid of the given number of digits, if there is one. The
two neighbours of the value on the grid are tried. -/
def onGrid (v : Quotient) (i : Interval) (count : Nat) : Option Scaled :=
  let k := v.exponent - (Int.ofNat count - 1)
  let scaled := v.scaleDown k
  let below := scaled.num / scaled.den
  let holds (d : Nat) : Bool := i.contains (Quotient.scaleDown ⟨d, 1⟩ (-k))
  match holds below, holds (below + 1) with
  | true, true => some ⟨scaled.roundEven, k⟩
  | true, false => some ⟨below, k⟩
  | false, true => some ⟨below + 1, k⟩
  | false, false => none

/-- The shortest decimal of a positive double. Seventeen digits always suffice. -/
def shortest (m : Nat) (q : Int) : Scaled :=
  let v := Quotient.ofBinary m q
  let i := Interval.ofBinary m q
  ((List.range 17).findSome? fun n => onGrid v i (n + 1)).getD ⟨m, 0⟩

/-- How a number is laid out: the least and the greatest decimal exponent of a positional text,
and the least number of digits of an exponent. -/
structure Layout where
  least : Int
  greatest : Int
  exponentDigits : Nat
  deriving DecidableEq, Repr

/-- Digits with zeros in front up to a width. -/
def padDigits (width n : Nat) : String :=
  let ds := Nat.toDigits 10 n
  String.ofList (List.replicate (width - ds.length) '0' ++ ds)

/-- The text of a positive decimal: positional with at least one place after the point, or with an
exponent that has a sign. -/
def Layout.text (layout : Layout) (s : Scaled) : String :=
  let ds := ((Nat.toDigits 10 s.digits).reverse.dropWhile (· == '0')).reverse
  let e := Int.ofNat (digitCount s.digits) - 1 + s.exponent
  if layout.least ≤ e ∧ e ≤ layout.greatest then
    if e < 0 then
      String.ofList ("0.".toList ++ List.replicate ((-e).toNat - 1) '0' ++ ds)
    else
      let n := e.toNat + 1
      let whole := ds.take n ++ List.replicate (n - ds.length) '0'
      let rest := ds.drop n
      String.ofList (whole ++ '.' :: (if rest.isEmpty then ['0'] else rest))
  else
    let tail := ds.drop 1
    String.ofList (ds.take 1 ++ (if tail.isEmpty then [] else '.' :: tail))
      ++ (if e < 0 then "e-" else "e+") ++ padDigits layout.exponentDigits e.natAbs

/-- The text of a double. -/
def Layout.float (layout : Layout) (x : Float) : String :=
  match Binary.ofFloat x with
  | .notANumber => "nan"
  | .infinite negative => if negative then "-inf" else "inf"
  | .finite negative m q =>
    (if negative then "-" else "") ++ (if m = 0 then "0.0" else layout.text (shortest m q))

end Downlevel.Decimal

/-!
# Binary fractions

A finite binary number is an integer times a power of two, so it is an exact quotient of natural
numbers. Decimal texts are computed from that quotient.
-/
namespace Downlevel.Decimal

/-- A nonnegative quotient of natural numbers. -/
structure Quotient where
  num : Nat
  den : Nat
  deriving DecidableEq, Repr

/-- The class of a binary number: the exact size of a finite one is `mantissa * 2 ^ exponent`. -/
inductive Binary where
  | notANumber
  | infinite (negative : Bool)
  | finite (negative : Bool) (mantissa : Nat) (exponent : Int)
  deriving DecidableEq, Repr

/-- Takes a double apart. -/
def Binary.ofFloat (x : Float) : Binary :=
  let bits := x.toBits.toNat
  let negative := bits / Nat.pow 2 63 == 1
  let biased := bits / Nat.pow 2 52 % Nat.pow 2 11
  let fraction := bits % Nat.pow 2 52
  if biased == 2047 then
    if fraction == 0 then .infinite negative else .notANumber
  else if biased == 0 then .finite negative fraction (-1074)
  else .finite negative (Nat.pow 2 52 + fraction) (Int.ofNat biased - 1075)

/-- `n * 2 ^ e` as a quotient. -/
def Quotient.ofBinary (n : Nat) (e : Int) : Quotient :=
  if 0 ≤ e then ⟨n * Nat.pow 2 e.toNat, 1⟩ else ⟨n, Nat.pow 2 (-e).toNat⟩

/-- The quotient divided by a power of ten. -/
def Quotient.scaleDown (v : Quotient) (k : Int) : Quotient :=
  if 0 ≤ k then ⟨v.num, v.den * Nat.pow 10 k.toNat⟩ else ⟨v.num * Nat.pow 10 (-k).toNat, v.den⟩

/-- Whether a quotient is at most another. -/
def Quotient.le (a b : Quotient) : Bool :=
  a.num * b.den ≤ b.num * a.den

/-- Whether a quotient is less than another. -/
def Quotient.lt (a b : Quotient) : Bool :=
  a.num * b.den < b.num * a.den

/-- The nearest integer; a half goes to the even neighbour. -/
def Quotient.roundEven (v : Quotient) : Nat :=
  let n := v.num / v.den
  let twice := 2 * (v.num % v.den)
  if twice < v.den then n
  else if v.den < twice then n + 1
  else if n % 2 = 0 then n else n + 1

/-- The number of decimal digits, one for zero. -/
def digitCount (n : Nat) : Nat :=
  (Nat.toDigits 10 n).length

/-- The decimal exponent of a positive quotient: the place of its leading digit. -/
def Quotient.exponent (v : Quotient) : Int :=
  if v.den ≤ v.num then Int.ofNat (digitCount (v.num / v.den)) - 1
  else
    let d := digitCount (v.den / v.num)
    if v.den ≤ v.num * Nat.pow 10 (d - 1) then 1 - Int.ofNat d else -(Int.ofNat d)

/-- The double nearest to `digits * 10 ^ exponent`. Beyond the range of doubles it is infinite or
zero, without forming the power. -/
def toFloat (digits : Nat) (exponent : Int) : Float :=
  let place := Int.ofNat (digitCount digits) + exponent
  if digits = 0 then 0.0
  else if 400 < place then 1.0 / 0.0
  else if place < -400 then 0.0
  else if 0 ≤ exponent then Float.ofScientific digits false exponent.toNat
  else Float.ofScientific digits true (-exponent).toNat

end Downlevel.Decimal

/-! # Binary64 numbers, taken apart -/

namespace FuzzCoverage.Decimal

inductive Binary64 where
  | nan
  | infinite (negative : Bool)
  /-- The number `mantissa * 2 ^ exponent` with a sign, which zero has as well. -/
  | finite (negative : Bool) (mantissa : Nat) (exponent : Int)
  deriving DecidableEq, Repr

/-- The least exponent of the format: that of the subnormal numbers. -/
def leastExponent : Int := -1074

def Binary64.ofFloat (x : Float) : Binary64 :=
  let bits := x.toBits.toNat
  let negative := Nat.pow 2 63 ≤ bits
  let field := bits / Nat.pow 2 52 % Nat.pow 2 11
  let fraction := bits % Nat.pow 2 52
  if field = 2047 then
    if fraction = 0 then .infinite negative else .nan
  else if field = 0 then .finite negative fraction leastExponent
  else .finite negative (Nat.pow 2 52 + fraction) (leastExponent + (field - 1 : Nat))

def roundHalfEven (num den : Nat) : Nat :=
  let whole := num / den
  let rest := num % den
  if 2 * rest < den then whole
  else if den < 2 * rest then whole + 1
  else whole + whole % 2

/-- The numerator and the denominator of `num / den / 2 ^ exponent`. -/
def scaleDown (num den : Nat) (exponent : Int) : Nat × Nat :=
  (num * Nat.pow 2 (-exponent).toNat, den * Nat.pow 2 exponent.toNat)

/-- The exponent at which `num / den` has a mantissa of 53 bits, or the least one where that is
    lower. -/
def exponentFor (num den : Nat) : Int :=
  let guess : Int := (num.log2 : Int) - den.log2
  let (a, b) := scaleDown num den guess
  max ((if b ≤ a then guess else guess - 1) - 52) leastExponent

/-- The bits of the non-negative number that is nearest to `num / den`.  A mantissa that rounds up
    to the next power of two carries into the exponent field, and past the largest number lies
    infinity. -/
def nearestBits (num den : Nat) : Nat :=
  let exponent := exponentFor num den
  let (a, b) := scaleDown num den exponent
  let bits := (exponent - leastExponent).toNat * Nat.pow 2 52 + roundHalfEven a b
  min bits (2047 * Nat.pow 2 52)

end FuzzCoverage.Decimal

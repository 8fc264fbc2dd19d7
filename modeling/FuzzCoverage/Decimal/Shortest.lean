import FuzzCoverage.Text.Basic
import FuzzCoverage.Decimal.Binary64

/-! # Shortest digits

A finite number stands for the interval of the reals that round to it.  Of the decimal grids, from
the coarse to the fine, the first one with a point in that interval gives the digits. -/

namespace FuzzCoverage.Decimal

/-- The reals that round to a number, in units of a quarter of its last place: the number is
    `4 * mantissa` such units and the ends are halfway to its neighbours.  They belong to it when
    the mantissa is even. -/
structure RoundingInterval where
  low : Nat
  mid : Nat
  high : Nat
  exponent : Int
  closed : Bool

/-- The interval of `mantissa * 2 ^ exponent`.  The neighbour below a power of two is nearer, save
    at the least exponent. -/
def RoundingInterval.of (mantissa : Nat) (exponent : Int) : RoundingInterval where
  low := 4 * mantissa - (if mantissa = Nat.pow 2 52 ∧ leastExponent < exponent then 1 else 2)
  mid := 4 * mantissa
  high := 4 * mantissa + 2
  exponent := exponent - 2
  closed := mantissa % 2 = 0

namespace RoundingInterval

variable (i : RoundingInterval)

def measures (power : Int) : Nat × Nat :=
  (Nat.pow 2 i.exponent.toNat * Nat.pow 10 (-power).toNat,
    Nat.pow 10 power.toNat * Nat.pow 2 (-i.exponent).toNat)

def holds (power : Int) (point : Nat) : Bool :=
  let (unit, step) := i.measures power
  if i.closed then i.low * unit ≤ point * step && point * step ≤ i.high * unit
  else i.low * unit < point * step && point * step < i.high * unit

/-- The grid point in the interval that is nearest to the number, the greater of two as near. -/
def pointOn? (power : Int) : Option Nat :=
  let (unit, step) := i.measures power
  let below := i.mid * unit / step
  let above := below + 1
  match i.holds power below, i.holds power above with
  | false, false => none
  | true, false => some below
  | false, true => some above
  | true, true =>
    let down := i.mid * unit - below * step
    let up := above * step - i.mid * unit
    some (if down < up then below else above)

def search : Nat → Int → Nat × Int
  | 0, power => (0, power)
  | fuel + 1, power =>
    match i.pointOn? power with
    | some point => (point, power)
    | none => search fuel (power - 1)

end RoundingInterval

/-- The fewest digits that read back as `mantissa * 2 ^ exponent`, with their power of ten.  Seventeen
    digits are always enough, so twenty grids are too. -/
def shortestDigits (mantissa : Nat) (exponent : Int) : Nat × Int :=
  if mantissa = 0 then (0, 0)
  else
    let size : Int := (mantissa.log2 + exponent) * 30103 / 100000
    (RoundingInterval.of mantissa exponent).search 20 (size + 1)

def digitsOf (n : Nat) : Text := Nat.toDigits 10 n

/-- `digits * 10 ^ power` with every place written out. -/
def positional (keepFraction : Bool) (digits : Nat) (power : Int) : Text :=
  if 0 ≤ power then
    digitsOf (digits * Nat.pow 10 power.toNat) ++ (if keepFraction then ['.', '0'] else [])
  else
    let places := (-power).toNat
    let fraction := digitsOf (digits % Nat.pow 10 places)
    digitsOf (digits / Nat.pow 10 places) ++ '.' ::
      (List.replicate (places - fraction.length) '0' ++ fraction)

end FuzzCoverage.Decimal

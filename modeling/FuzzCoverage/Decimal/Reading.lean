import FuzzCoverage.Text.Lowercase
import FuzzCoverage.Decimal.Binary64
import FuzzCoverage.Decimal.Natural

/-! # Reading decimal numbers

A decimal number has an optional sign and then digits, with a point before, between or after them,
and an optional power of ten; the words for infinity and for no number are read as well, in any
case. -/

namespace FuzzCoverage.Decimal

structure Numeral where
  digits : Nat
  power : Int
  deriving DecidableEq, Repr

def valueOf (digits : Text) : Nat :=
  digits.foldl (fun value c => value * 10 + (c.toNat - '0'.toNat)) 0

def readPower? (t : Text) : Option Int :=
  let (negative, digits) := match t with
    | '-' :: rest => (true, rest)
    | '+' :: rest => (false, rest)
    | rest => (false, rest)
  if digits.isEmpty || !digits.all Char.isDigit then none
  else some (if negative then -(valueOf digits : Int) else valueOf digits)

/-- What may follow the digits: nothing, or the mark of a power of ten and that power. -/
def readTail? : Text → Option Int
  | [] => some 0
  | c :: rest => if c = 'e' ∨ c = 'E' then readPower? rest else none

/-- Reads an unsigned number.  One digit at least stands before or after the point. -/
def Numeral.read? (t : Text) : Option Numeral := do
  let whole := t.takeWhile Char.isDigit
  let (fraction, tail) := match t.dropWhile Char.isDigit with
    | '.' :: rest => (rest.takeWhile Char.isDigit, rest.dropWhile Char.isDigit)
    | rest => ([], rest)
  if whole.isEmpty && fraction.isEmpty then none
  let power ← readTail? tail
  return ⟨valueOf (whole ++ fraction), power - fraction.length⟩

/-- The bits of the number nearest to the numeral.  The digits and the power together place it
    beyond the largest or below the least number before a large power of ten is computed. -/
def Numeral.nearestBits (n : Numeral) : Nat :=
  let size : Int := (Nat.toDigits 10 n.digits).length + n.power
  if n.digits = 0 ∨ size < -330 then 0
  else if 320 < size then 2047 * Nat.pow 2 52
  else Decimal.nearestBits (n.digits * Nat.pow 10 n.power.toNat) (Nat.pow 10 (-n.power).toNat)

def readUnsigned? (t : Text) : Option Float :=
  let word := t.asciiLowercase
  if word = "inf".toList ∨ word = "infinity".toList then some (1.0 / 0.0)
  else if word = "nan".toList then some (0.0 / 0.0)
  else (Numeral.read? t).map fun n => Float.ofBits (UInt64.ofNat n.nearestBits)

def readFloat? : Text → Option Float
  | '-' :: rest => (readUnsigned? rest).map (- ·)
  | '+' :: rest => readUnsigned? rest
  | t => readUnsigned? t

end FuzzCoverage.Decimal

import FuzzCoverage.Decimal.Rendering

/-! # Percentages

A percentage is a number from 0 to 100 with at most two decimals.  Its arithmetic is a parameter
(`PercentArith`): the program computes with binary64 numbers, and the same rules read over the
rationals are exact. -/

namespace FuzzCoverage

class PercentArith (α : Type) where
  ofCount : Nat → α
  multiply : α → α → α
  divide : α → α → α
  less : α → α → Bool
  same : α → α → Bool
  /-- Rounds to a whole number, halves away from zero. -/
  toWhole : α → α
  isFinite : α → Bool

instance : PercentArith Float where
  ofCount := Float.ofNat
  multiply a b := a * b
  divide a b := a / b
  less a b := a < b
  same a b := a == b
  toWhole := Float.round
  isFinite := Float.isFinite

def roundHalfAway (q : Rat) : Rat :=
  if 0 ≤ q then (q + 1 / 2).floor else -(-q + 1 / 2).floor

instance : PercentArith Rat where
  ofCount n := n
  multiply a b := a * b
  divide a b := a / b
  less a b := a < b
  same a b := a == b
  toWhole := roundHalfAway
  isFinite _ := true

/-- Zero stays zero in the operations that a percentage is computed by. -/
class PercentArith.KeepsZero (α : Type) [PercentArith α] : Prop where
  multiply (n : Nat) : multiply (ofCount 0) (ofCount n : α) = ofCount 0
  divide (n : Nat) : n ≠ 0 → divide (ofCount 0) (ofCount n : α) = ofCount 0
  toWhole : toWhole (ofCount 0 : α) = ofCount 0
  notLess (n : Nat) : less (ofCount n) (ofCount 0 : α) = false
  same : same (ofCount 0) (ofCount 0 : α)

instance : PercentArith.KeepsZero Rat where
  multiply n := Rat.zero_mul _
  divide n _ := (Rat.div_def 0 n).trans (Rat.zero_mul _)
  toWhole := by decide +kernel
  notLess n := by
    have hle : (0 : Rat) ≤ n := by exact_mod_cast Nat.zero_le n
    exact decide_eq_false (Rat.not_lt.2 hle)
  same := by decide

structure Percentage (α : Type) where
  value : α

namespace Percentage

variable {α : Type} [PercentArith α]

open PercentArith

def zero : Percentage α := ⟨ofCount 0⟩

def full : Percentage α := ⟨ofCount 100⟩

def roundToHundredths (v : α) : α := divide (toWhole (multiply v (ofCount 100))) (ofCount 100)

def clamp (v : α) : α :=
  if less v (ofCount 0) then ofCount 0
  else if less (ofCount 100) v then ofCount 100
  else v

def of (v : α) : Percentage α :=
  if isFinite v then ⟨roundToHundredths (clamp v)⟩ else zero

def ofRatio (part whole : Nat) : Percentage α :=
  if whole = 0 then zero else of (multiply (divide (ofCount part) (ofCount whole)) (ofCount 100))

def isBelow (p : Percentage α) (threshold : α) : Bool := less p.value threshold

def isZero (p : Percentage α) : Bool := same p.value (zero : Percentage α).value

def isFull (p : Percentage α) : Bool := same p.value (full : Percentage α).value

theorem isZero_ofRatio [KeepsZero α] (whole : Nat) : (ofRatio 0 whole : Percentage α).isZero := by
  have hzero : (zero : Percentage α).isZero := KeepsZero.same
  rw [ofRatio]
  split
  · exact hzero
  · next hwhole =>
    have hclamp : clamp (ofCount 0 : α) = ofCount 0 := by simp [clamp, KeepsZero.notLess]
    have hround : roundToHundredths (ofCount 0 : α) = ofCount 0 := by
      rw [roundToHundredths, KeepsZero.multiply, KeepsZero.toWhole,
        KeepsZero.divide 100 (by decide)]
    rw [KeepsZero.divide whole hwhole, KeepsZero.multiply, of, hclamp, hround]
    split
    · exact hzero
    · exact hzero

theorem isFull_ofRatio {whole : Nat} (h : whole ≠ 0) :
    (ofRatio whole whole : Percentage Rat).isFull := by
  have hone : (whole : Rat) / whole = 1 := by
    rw [Rat.div_def, Rat.mul_inv_cancel _ (by exact_mod_cast h)]
  have hof : (ofRatio whole whole : Percentage Rat) = of ((whole : Rat) / whole * 100) := by
    rw [ofRatio, if_neg h]
    rfl
  rw [hof, hone]
  decide +kernel

def display (p : Percentage Float) : Text := Decimal.fixed 2 p.value ++ ['%']

end Percentage

end FuzzCoverage

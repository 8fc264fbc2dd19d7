import FuzzCoverage.Decimal.Natural

/-! # Counts

Counts are natural numbers that are kept in a 64-bit word.  Adding is checked: a sum that the word
does not hold is an `Overflow`, never a smaller number. -/

namespace FuzzCoverage

inductive Overflow where
  | addition
  deriving DecidableEq, Repr

def Overflow.message : Overflow → String
  | .addition => "attempt to add with overflow"

namespace Count

open Decimal (word64)

def fits (n : Nat) : Bool := n < word64

def add (a b : Nat) : Except Overflow Nat :=
  if fits (a + b) then .ok (a + b) else .error .addition

def total (counts : List Nat) : Nat := counts.foldr (· + ·) 0

def sumFrom (start : Nat) (counts : List Nat) : Except Overflow Nat :=
  counts.foldlM add start

def sum (counts : List Nat) : Except Overflow Nat := sumFrom 0 counts

theorem total_cons (n : Nat) (counts : List Nat) : total (n :: counts) = n + total counts := rfl

theorem sumFrom_eq (start : Nat) (counts : List Nat) (h : fits start) :
    sumFrom start counts =
      if fits (start + total counts) then .ok (start + total counts) else .error .addition := by
  induction counts generalizing start with
  | nil => simp [sumFrom, total, h]; rfl
  | cons n rest ih =>
    have step : sumFrom start (n :: rest) = add start n >>= fun next => sumFrom next rest := rfl
    rw [step, add]
    by_cases hn : fits (start + n)
    · rw [if_pos hn]
      show sumFrom (start + n) rest = _
      rw [ih _ hn, total_cons, Nat.add_assoc]
    · have hall : ¬ fits (start + total (n :: rest)) := by
        rw [total_cons]
        simp only [fits, decide_eq_true_eq] at hn ⊢
        omega
      rw [if_neg hn, if_neg hall]
      rfl

theorem sum_eq (counts : List Nat) :
    sum counts = if fits (total counts) then .ok (total counts) else .error .addition := by
  rw [sum, sumFrom_eq 0 counts (by decide), Nat.zero_add]

inductive Step where
  | set (n : Nat)
  | increment
  | add (n : Nat)
  /-- Replaces the count by the sum of a list. -/
  | sumOf (counts : List Nat)
  deriving DecidableEq, Repr

def Step.apply (n : Nat) : Step → Except Overflow Nat
  | .set m => .ok m
  | .increment => Count.add n 1
  | .add m => Count.add n m
  | .sumOf counts => Count.sum counts

end Count

end FuzzCoverage

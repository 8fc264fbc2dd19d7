import FuzzCoverage.Solidity.Comment

/-! # Braces

Those inside of string literals are text and do not count. -/

namespace FuzzCoverage.Solidity

structure Braces where
  opens : Nat
  closes : Nat
  deriving DecidableEq, Repr

namespace Braces

def ofChar (c : Char) : Braces :=
  if c = '\x7b' then ⟨1, 0⟩ else if c = '\x7d' then ⟨0, 1⟩ else ⟨0, 0⟩

def add (a b : Braces) : Braces := ⟨a.opens + b.opens, a.closes + b.closes⟩

/-- Counts from a place outside of string literals, or inside of one that ends at `quote`. -/
def count : Option Char → Text → Braces
  | _, [] => ⟨0, 0⟩
  | some quote, '\\' :: _ :: rest => count (some quote) rest
  | some quote, c :: rest => count (if c = quote then none else some quote) rest
  | none, c :: rest =>
    (ofChar c).add (count (if isQuote c then some c else none) rest)

def of (code : Text) : Braces := count none code

theorem add_assoc (a b c : Braces) : (a.add b).add c = a.add (b.add c) := by
  simp only [add, Nat.add_assoc]

theorem ofChar_le (c : Char) : (ofChar c).opens + (ofChar c).closes ≤ 1 := by
  rw [ofChar]
  split
  · decide
  · split <;> decide

theorem count_le (site : Option Char) (code : Text) :
    (count site code).opens + (count site code).closes ≤ code.length := by
  fun_induction count site code with
  | case1 => exact Nat.zero_le _
  | case2 quote c rest ih =>
    simp only [List.length_cons]
    omega
  | case3 quote c rest _ ih =>
    simp only [List.length_cons]
    omega
  | case4 c rest ih =>
    have hchar := ofChar_le c
    simp only [add, List.length_cons]
    omega

theorem of_le (code : Text) : (of code).opens + (of code).closes ≤ code.length := count_le none code

end Braces

end FuzzCoverage.Solidity

import FuzzCoverage.Block.Basic
import FuzzCoverage.Count
import FuzzCoverage.Percentage

/-! # Coverage figures

`Coverage.ofBlocks` reads the figures of a file off its blocks; `Coverage.ofBlocks?` does the
additions within the bounds of their words. -/

namespace FuzzCoverage

structure Coverage where
  totalFunctions : Nat
  fullyCoveredFunctions : Nat
  coveredLines : Nat
  /-- The number of functions with a reverted line, though reports call it a number of lines. -/
  revertedFunctions : Nat
  untouchedLines : Nat
  deriving DecidableEq, Repr

namespace Coverage

/-- The figures of a file's blocks.  The block for what lies outside of every function is one of
    them. -/
def ofBlocks (mode : CountingMode) (blocks : List Block) : Coverage where
  totalFunctions := blocks.length
  fullyCoveredFunctions := blocks.countP (·.isFullyCoveredIn mode)
  coveredLines := Count.total (blocks.map (·.tallies.coveredIn mode))
  revertedFunctions := blocks.countP (·.isReverted)
  untouchedLines := Count.total (blocks.map (·.tallies.untouchedIn mode))

def lines (c : Coverage) : Nat := c.coveredLines + c.untouchedLines

def ofBlocks? (mode : CountingMode) (blocks : List Block) : Except Overflow Coverage := do
  let coveredLines ← Count.sum (blocks.map (·.tallies.coveredIn mode))
  let untouchedLines ← Count.sum (blocks.map (·.tallies.untouchedIn mode))
  let _ ← Count.add coveredLines untouchedLines
  return { ofBlocks mode blocks with coveredLines, untouchedLines }

theorem ofBlocks?_eq (mode : CountingMode) (blocks : List Block) :
    ofBlocks? mode blocks =
      if Count.fits (ofBlocks mode blocks).lines then .ok (ofBlocks mode blocks)
      else .error .addition := by
  unfold ofBlocks?
  rw [Count.sum_eq, Count.sum_eq]
  generalize hc : Count.total (blocks.map (·.tallies.coveredIn mode)) = covered
  generalize hu : Count.total (blocks.map (·.tallies.untouchedIn mode)) = untouched
  have hl : (ofBlocks mode blocks).lines = covered + untouched := by
    rw [← hc, ← hu]; rfl
  have he : { ofBlocks mode blocks with coveredLines := covered, untouchedLines := untouched } =
      ofBlocks mode blocks := by
    rw [← hc, ← hu]; rfl
  rw [hl]
  by_cases hsum : Count.fits (covered + untouched)
  · have h1 : Count.fits covered := by
      simp only [Count.fits, decide_eq_true_eq] at hsum ⊢; omega
    have h2 : Count.fits untouched := by
      simp only [Count.fits, decide_eq_true_eq] at hsum ⊢; omega
    rw [if_pos h1, if_pos h2, if_pos hsum]
    simp only [Count.add, hsum, bind, Except.bind, if_true, pure, Except.pure, he]
  · rw [if_neg hsum]
    by_cases h1 : Count.fits covered
    · by_cases h2 : Count.fits untouched
      · rw [if_pos h1, if_pos h2]
        simp [Count.add, hsum, bind, Except.bind]
      · rw [if_pos h1, if_neg h2]; rfl
    · rw [if_neg h1]; rfl

variable {α : Type} [PercentArith α]

def functionPercentage (c : Coverage) : Percentage α :=
  .ofRatio c.fullyCoveredFunctions c.totalFunctions

def linePercentage (c : Coverage) : Percentage α := .ofRatio c.coveredLines c.lines

/-- Whether no line is covered.  The share of the covered lines is zero then
    (`isZero_linePercentage`) and needs no test of its own. -/
def hasNothingCovered (c : Coverage) : Bool := c.coveredLines == 0

theorem isZero_linePercentage [PercentArith.KeepsZero α] {c : Coverage} (h : c.hasNothingCovered) :
    (c.linePercentage : Percentage α).isZero := by
  have hcovered : c.coveredLines = 0 := by simpa [hasNothingCovered] using h
  rw [linePercentage, hcovered]
  exact Percentage.isZero_ofRatio c.lines

/-- The share of a file with covered lines and no untouched ones is full. -/
theorem isFull_linePercentage {c : Coverage} (hcovered : c.hasNothingCovered = false)
    (huntouched : c.untouchedLines = 0) : (c.linePercentage : Percentage Rat).isFull := by
  have hlines : c.lines = c.coveredLines := by rw [lines, huntouched, Nat.add_zero]
  rw [linePercentage, hlines]
  exact Percentage.isFull_ofRatio (by simpa [hasNothingCovered] using hcovered)

end Coverage

end FuzzCoverage

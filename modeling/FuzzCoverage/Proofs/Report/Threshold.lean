import FuzzCoverage.Command.Run
import FuzzCoverage.Proofs.Percentage
import Mathlib.Algebra.Order.Floor.Ring
import Mathlib.Data.Rat.Floor

/-! # The threshold of a run

A run compares its threshold with the percentages that reports show, and these are whole numbers of
hundredths.  So what decides is not the threshold itself but a cut-off near it (`cutOff`): a file is
held to be below the threshold exactly when its coverage, before it is rounded, is short of the cut-off
(`isBelow_ofRatio_iff`).  The two differ by half a hundredth at most. -/

namespace FuzzCoverage

/-- Whether the covered lines, taken exactly, are less than a share of the lines of the file.  Of a file
    without lines that holds when any share at all is asked for. -/
def Coverage.IsShortOf (share : Rat) (c : Coverage) : Prop :=
  (c.coveredLines : Rat) * 100 < share * c.lines ∨ c.lines = 0 ∧ 0 < share

instance (share : Rat) (c : Coverage) : Decidable (c.IsShortOf share) :=
  inferInstanceAs (Decidable (_ ∨ _))

/-- Half a hundredth below the first number of hundredths that is no less than a threshold: what is
    short of this is rounded to less than the threshold. -/
def cutOff (threshold : Rat) : Rat := ⌈threshold * 100⌉ / 100 - 1 / 200

variable {t : Rat}

theorem le_cutOff (t : Rat) : t - 1 / 200 ≤ cutOff t := by
  have hceil : t * 100 ≤ ⌈t * 100⌉ := Int.le_ceil _
  rw [cutOff]
  linarith

theorem cutOff_lt (t : Rat) : cutOff t < t + 1 / 200 := by
  have hceil : (⌈t * 100⌉ : Rat) < t * 100 + 1 := Int.ceil_lt_add_one _
  rw [cutOff]
  linarith

theorem cutOff_pos_iff : 0 < cutOff t ↔ 0 < t := by
  have hceil : 0 < ⌈t * 100⌉ ↔ 0 < t := by
    rw [Int.ceil_pos]
    exact mul_pos_iff_of_pos_right (by norm_num)
  rw [← hceil, cutOff]
  constructor
  · intro h
    have hpos : (0 : Rat) < ⌈t * 100⌉ := by linarith
    exact_mod_cast hpos
  · intro h
    have hone : (1 : Rat) ≤ ⌈t * 100⌉ := by exact_mod_cast h
    linarith

/-! ## Rounding to hundredths -/

/-- What is not negative is rounded to less than a threshold exactly when it is short of the cut-off. -/
theorem roundHalfAway_lt_iff {p : Rat} (hp : 0 ≤ p) : roundHalfAway (p * 100) / 100 < t ↔ p < cutOff t := by
  have hnonneg : 0 ≤ p * 100 := by linarith
  rw [roundHalfAway, if_pos hnonneg]
  calc ((p * 100 + 1 / 2).floor : Rat) / 100 < t
      ↔ ((p * 100 + 1 / 2).floor : Rat) < t * 100 := div_lt_iff₀ (by norm_num)
    _ ↔ ⌊p * 100 + 1 / 2⌋ < ⌈t * 100⌉ := Int.lt_ceil.symm
    _ ↔ p * 100 + 1 / 2 < ⌈t * 100⌉ := Int.floor_lt
    _ ↔ p < cutOff t := by
      rw [cutOff]
      constructor <;> intro h <;> linarith

namespace Percentage

theorem isBelow_iff (p : Percentage Rat) : p.isBelow t ↔ p.value < t := decide_eq_true_iff

/-- A percentage is below a threshold exactly when the share that it is of is short of the cut-off. -/
theorem isBelow_ofRatio_iff {part whole : Nat} (h : part ≤ whole) :
    (ofRatio part whole : Percentage Rat).isBelow t ↔ (part : Rat) / whole * 100 < cutOff t := by
  have hnonneg : (0 : Rat) ≤ part / whole * 100 := by positivity
  have hle : (part : Rat) / whole * 100 ≤ 100 := by
    have hshare : (part : Rat) / whole ≤ 1 := div_le_one_of_le₀ (by exact_mod_cast h) (Nat.cast_nonneg _)
    linarith
  -- a share of a whole is a number from 0 to 100 already
  rw [isBelow_iff, value_ofRatio, value_of, min_eq_left hle, max_eq_right hnonneg]
  exact roundHalfAway_lt_iff hnonneg

end Percentage

/-! ## Files -/

theorem Coverage.isBelow_linePercentage_iff (c : Coverage) :
    (c.linePercentage : Percentage Rat).isBelow t ↔ c.IsShortOf (cutOff t) := by
  have hpart : c.coveredLines ≤ c.lines := Nat.le_add_right _ _
  rw [linePercentage, Percentage.isBelow_ofRatio_iff hpart, IsShortOf]
  rcases Nat.eq_zero_or_pos c.lines with hnone | hlines
  · simp [hnone]
  · have hcast : (0 : Rat) < c.lines := by exact_mod_cast hlines
    have hshare : (c.coveredLines : Rat) / c.lines * 100 = c.coveredLines * 100 / c.lines :=
      div_mul_eq_mul_div _ _ _
    rw [hshare, div_lt_iff₀ hcast]
    simp [hlines.ne']

/-- **Runs miss a threshold by the percentages that they show.**  With exact arithmetic a run that has to
    reach a threshold misses it exactly when some file, taken exactly, is short of the cut-off, which is
    the threshold up to half a hundredth on either side; a file without lines is short of it when the
    threshold is positive. -/
theorem missesThreshold_iff (failUnder : Bool) (t : Rat) (reports : List FileReport) :
    (missesThreshold failUnder t reports ↔
      failUnder ∧ ∃ r ∈ reports, r.coverage.IsShortOf (cutOff t)) ∧
    t - 1 / 200 ≤ cutOff t ∧ cutOff t < t + 1 / 200 ∧ (0 < cutOff t ↔ 0 < t) := by
  refine ⟨?_, le_cutOff t, cutOff_lt t, cutOff_pos_iff⟩
  have hbelow : (belowThreshold t reports).isEmpty = false ↔
      ∃ r ∈ reports, r.coverage.IsShortOf (cutOff t) := by
    rw [← Bool.not_eq_true, List.isEmpty_iff, belowThreshold, List.filter_eq_nil_iff]
    push Not
    simp only [FileReport.isBelow, Coverage.isBelow_linePercentage_iff]
  rw [missesThreshold, Bool.and_eq_true, Bool.not_eq_true', hbelow]

/-- A file with three lines, of which the first is covered, the last is not, and the second has a mark of
    its own. -/
def thirdsTrace (mark : Text) : Text :=
  "/p/src/A.sol\n1|1|*|function f() public \x7b\n2|1|".toList ++ mark ++ "|x = 1;\n3|0||y = 2;\n4|||\x7d\n".toList

/-- Two thirds are short of 66.67 hundredths and pass for as much; one third is not short of 33.333
    hundredths and is refused. -/
theorem missesThreshold_thirds :
    (missesThreshold true (6667 / 100 : Rat) (analyze {} (thirdsTrace ['*'])) = false ∧
      ∃ r ∈ analyze {} (thirdsTrace ['*']), r.coverage.IsShortOf (6667 / 100)) ∧
    missesThreshold true (33333 / 1000 : Rat) (analyze {} (thirdsTrace [])) = true ∧
      ∀ r ∈ analyze {} (thirdsTrace []), ¬ r.coverage.IsShortOf (33333 / 1000) := by
  decide +kernel

end FuzzCoverage

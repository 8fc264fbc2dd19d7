import FuzzCoverage.Percentage
import Mathlib.Algebra.Order.Field.Rat
import Mathlib.Tactic.Linarith

/-! # Percentages in exact arithmetic

Read over the rationals, a percentage grows with the share that it is of: rounding, moving into the
range from 0 to 100 and the case of an empty whole never turn the order around
(`Percentage.value_ofRatio_le`). -/

namespace FuzzCoverage

theorem roundHalfAway_zero : roundHalfAway 0 = 0 := by decide +kernel

theorem roundHalfAway_nonneg {q : Rat} (h : 0 ≤ q) : 0 ≤ roundHalfAway q := by
  have hfloor : (0 : Int) ≤ (q + 1 / 2).floor := Rat.le_floor_iff.2 (by push_cast; linarith)
  rw [roundHalfAway, if_pos h]
  exact_mod_cast hfloor

theorem roundHalfAway_nonpos {q : Rat} (h : q < 0) : roundHalfAway q ≤ 0 := by
  have hfloor : (0 : Int) ≤ (-q + 1 / 2).floor := Rat.le_floor_iff.2 (by push_cast; linarith)
  have hcast : (0 : Rat) ≤ (-q + 1 / 2).floor := by exact_mod_cast hfloor
  rw [roundHalfAway, if_neg (not_le.2 h)]
  linarith

theorem roundHalfAway_mono {q r : Rat} (h : q ≤ r) : roundHalfAway q ≤ roundHalfAway r := by
  by_cases hq : 0 ≤ q
  · have hfloor : (q + 1 / 2).floor ≤ (r + 1 / 2).floor := Rat.floor_monotone (by linarith)
    rw [roundHalfAway, roundHalfAway, if_pos hq, if_pos (hq.trans h)]
    exact_mod_cast hfloor
  · by_cases hr : 0 ≤ r
    · exact (roundHalfAway_nonpos (not_le.1 hq)).trans (roundHalfAway_nonneg hr)
    · have hfloor : (-r + 1 / 2).floor ≤ (-q + 1 / 2).floor := Rat.floor_monotone (by linarith)
      have hcast : ((-r + 1 / 2).floor : Rat) ≤ (-q + 1 / 2).floor := by exact_mod_cast hfloor
      rw [roundHalfAway, roundHalfAway, if_neg hq, if_neg hr]
      linarith

namespace Percentage

theorem clamp_eq (v : Rat) : clamp v = max 0 (min v 100) := by
  simp only [clamp, PercentArith.less, PercentArith.ofCount, decide_eq_true_eq, Nat.cast_zero,
    Nat.cast_ofNat]
  split
  · rename_i hlow
    rw [max_eq_left ((min_le_left _ _).trans hlow.le)]
  · rename_i hlow
    split
    · rename_i hhigh
      rw [min_eq_right hhigh.le, max_eq_right (by norm_num)]
    · rename_i hhigh
      rw [min_eq_left (not_lt.1 hhigh), max_eq_right (not_lt.1 hlow)]

theorem value_of (v : Rat) : (of v).value = roundHalfAway (max 0 (min v 100) * 100) / 100 := by
  simp [of, PercentArith.isFinite, roundToHundredths, PercentArith.divide, PercentArith.multiply,
    PercentArith.toWhole, PercentArith.ofCount, clamp_eq]

theorem value_of_le {v w : Rat} (h : v ≤ w) : (of v).value ≤ (of w).value := by
  rw [value_of, value_of]
  have hclamp : max 0 (min v 100) ≤ max 0 (min w 100) := max_le_max le_rfl (min_le_min h le_rfl)
  have hround := roundHalfAway_mono (mul_le_mul_of_nonneg_right hclamp (by norm_num : (0 : Rat) ≤ 100))
  linarith

/-- An empty whole is no special case: a quotient by zero is zero. -/
theorem value_ofRatio (part whole : Nat) :
    (ofRatio part whole : Percentage Rat).value = (of ((part : Rat) / whole * 100)).value := by
  by_cases hwhole : whole = 0
  · simp [ofRatio, hwhole, zero, value_of, PercentArith.ofCount, roundHalfAway_zero]
  · rw [ofRatio, if_neg hwhole]
    rfl

/-- **A percentage is no smaller for a share that is no smaller.** -/
theorem value_ofRatio_le {part whole part' whole' : Nat}
    (h : (part : Rat) / whole ≤ (part' : Rat) / whole') :
    (ofRatio part whole : Percentage Rat).value ≤ (ofRatio part' whole' : Percentage Rat).value := by
  rw [value_ofRatio, value_ofRatio]
  exact value_of_le (mul_le_mul_of_nonneg_right h (by norm_num))

end Percentage

end FuzzCoverage

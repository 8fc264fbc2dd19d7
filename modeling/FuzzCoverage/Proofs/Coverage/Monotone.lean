import FuzzCoverage.Coverage
import FuzzCoverage.Proofs.Percentage
import FuzzCoverage.Proofs.Scan.Covering

/-! # Covering more rows

What becomes of the figures of a file when rows with an empty marker column get a star, and nothing
else changes.

* `coverage_le_of_starred` — no covered line is lost, no line becomes untouched, and line coverage
  does not go down;
* `functionShare_le_of_starred` — the share of the fully covered functions does not go down either,
  but for one case: the rows outside of every function may come to count by it.  The block for them is
  returned as soon as one of them counts in the standard mode, and in logical coverage it is one more
  block that is not fully covered. -/

namespace FuzzCoverage

open Scan Trace

/-! ## Sums over blocks -/

namespace Count

theorem total_append (first rest : List Nat) : total (first ++ rest) = total first + total rest := by
  induction first with
  | nil => simp [total]
  | cons n first ih => rw [List.cons_append, total_cons, ih, total_cons, Nat.add_assoc]

theorem total_le {counts counts' : List Nat} (h : List.Forall₂ (· ≤ ·) counts counts') :
    total counts ≤ total counts' := by
  induction h with
  | nil => exact Nat.le_refl _
  | cons hn _ ih => exact Nat.add_le_add hn ih

end Count

variable {blocks blocks' : List Block} {mode : CountingMode}

theorem total_coveredIn_le (h : List.Forall₂ Block.Improves blocks blocks') :
    Count.total (blocks.map (·.tallies.coveredIn mode)) ≤
      Count.total (blocks'.map (·.tallies.coveredIn mode)) := by
  apply Count.total_le
  exact List.rel_map (fun _ _ hb => hb.tallies.coveredIn) h

theorem total_untouchedIn_le (h : List.Forall₂ Block.Improves blocks blocks') :
    Count.total (blocks'.map (·.tallies.untouchedIn mode)) ≤
      Count.total (blocks.map (·.tallies.untouchedIn mode)) := by
  apply Count.total_le
  exact List.rel_map (fun _ _ hb => hb.tallies.untouchedIn) h.flip

theorem countP_isFullyCoveredIn_le (h : List.Forall₂ Block.Improves blocks blocks') :
    blocks.countP (·.isFullyCoveredIn mode) ≤ blocks'.countP (·.isFullyCoveredIn mode) := by
  induction h with
  | nil => exact Nat.le_refl _
  | @cons b b' blocks blocks' hb _ ih =>
    rw [List.countP_cons, List.countP_cons]
    by_cases hfull : b.isFullyCoveredIn mode
    · rw [if_pos hfull, if_pos (hb.isFullyCoveredIn hfull)]
      omega
    · rw [if_neg hfull]
      omega

theorem total_residue (s : State) (h : s.residue.tallies.Bounded) (mode : CountingMode) :
    Count.total (s.residue?.toList.map (·.tallies.coveredIn mode)) = s.residue.tallies.coveredIn mode ∧
      Count.total (s.residue?.toList.map (·.tallies.untouchedIn mode)) =
        s.residue.tallies.untouchedIn mode := by
  by_cases hcounted : s.residue.tallies.counted = 0
  · -- a residue that is not returned has nothing to add, in logical coverage neither
    rw [State.residue?, if_pos hcounted, h.eq_empty hcounted]
    cases mode with
    | standard => exact ⟨rfl, rfl⟩
    | logical => exact ⟨rfl, rfl⟩
  · rw [State.residue?, if_neg hcounted]
    exact ⟨rfl, rfl⟩

/-! ## Shares -/

/-- The share of the functions that are fully covered, before it is rounded; zero where there is no
    block. -/
def Coverage.functionShare (c : Coverage) : Rat := (c.fullyCoveredFunctions : Rat) / c.totalFunctions

theorem lineShare_le {covered untouched covered' untouched' : Nat} (hcovered : covered ≤ covered')
    (huntouched : untouched' ≤ untouched) :
    (covered : Rat) / (covered + untouched : Nat) ≤ (covered' : Rat) / (covered' + untouched' : Nat) := by
  rcases Nat.eq_zero_or_pos covered with rfl | hpos
  · rw [Nat.cast_zero, zero_div]
    exact div_nonneg (Nat.cast_nonneg _) (Nat.cast_nonneg _)
  · have hlines : (0 : Rat) < (covered + untouched : Nat) := by
      exact_mod_cast Nat.add_pos_left hpos untouched
    have hlines' : (0 : Rat) < (covered' + untouched' : Nat) := by
      exact_mod_cast Nat.add_pos_left (hpos.trans_le hcovered) untouched'
    rw [div_le_div_iff₀ hlines hlines']
    have hcross : covered * untouched' ≤ covered' * untouched := Nat.mul_le_mul hcovered huntouched
    have hproduct : covered * (covered' + untouched') ≤ covered' * (covered + untouched) := by
      rw [Nat.mul_add, Nat.mul_add, Nat.mul_comm covered']
      exact Nat.add_le_add_left hcross _
    exact_mod_cast hproduct

theorem functionShare_le {c c' : Coverage} (htotal : c.totalFunctions = c'.totalFunctions)
    (hfull : c.fullyCoveredFunctions ≤ c'.fullyCoveredFunctions) : c.functionShare ≤ c'.functionShare := by
  have hcast : (c.fullyCoveredFunctions : Rat) ≤ c'.fullyCoveredFunctions := by exact_mod_cast hfull
  rw [Coverage.functionShare, Coverage.functionShare, htotal]
  exact div_le_div_of_nonneg_right hcast (Nat.cast_nonneg _)

theorem functionShare_le_of_one_more {c c' : Coverage} (htotal : c'.totalFunctions = c.totalFunctions + 1)
    (hfull : c.fullyCoveredFunctions + 1 ≤ c'.fullyCoveredFunctions)
    (hle : c.fullyCoveredFunctions ≤ c.totalFunctions) : c.functionShare ≤ c'.functionShare := by
  rw [Coverage.functionShare, Coverage.functionShare, htotal]
  rcases Nat.eq_zero_or_pos c.totalFunctions with hnone | hpos
  · rw [hnone, Nat.cast_zero, div_zero]
    exact div_nonneg (Nat.cast_nonneg _) (Nat.cast_nonneg _)
  · rw [div_le_div_iff₀ (by exact_mod_cast hpos) (by exact_mod_cast Nat.succ_pos _)]
    have hproduct : c.fullyCoveredFunctions * (c.totalFunctions + 1) ≤
        c'.fullyCoveredFunctions * c.totalFunctions := by
      calc c.fullyCoveredFunctions * (c.totalFunctions + 1)
          = c.fullyCoveredFunctions * c.totalFunctions + c.fullyCoveredFunctions := Nat.mul_succ _ _
        _ ≤ c.fullyCoveredFunctions * c.totalFunctions + c.totalFunctions := by omega
        _ = (c.fullyCoveredFunctions + 1) * c.totalFunctions := (Nat.succ_mul _ _).symm
        _ ≤ c'.fullyCoveredFunctions * c.totalFunctions := Nat.mul_le_mul_right _ hfull
    exact_mod_cast hproduct

/-! ## Lines -/

variable {rows rows' : List Text}

def fileCoverage (mode : CountingMode) (allFunctions : Bool) (rows : List Text) : Coverage :=
  Coverage.ofBlocks mode (fileBlocks allFunctions rows)

theorem coveredLines_fileCoverage (mode : CountingMode) (allFunctions : Bool) (rows : List Text) :
    (fileCoverage mode allFunctions rows).coveredLines =
      Count.total ((functionBlocks allFunctions rows).map (·.tallies.coveredIn mode)) +
        (afterLines rows).residue.tallies.coveredIn mode := by
  rw [← (total_residue _ (bounded_residue rows) mode).1, ← Count.total_append, ← List.map_append]
  rfl

theorem untouchedLines_fileCoverage (mode : CountingMode) (allFunctions : Bool) (rows : List Text) :
    (fileCoverage mode allFunctions rows).untouchedLines =
      Count.total ((functionBlocks allFunctions rows).map (·.tallies.untouchedIn mode)) +
        (afterLines rows).residue.tallies.untouchedIn mode := by
  rw [← (total_residue _ (bounded_residue rows) mode).2, ← Count.total_append, ← List.map_append]
  rfl

/-- **Covering more lines never lowers line coverage.** -/
theorem coverage_le_of_starred (h : List.Forall₂ SameOrStarred rows rows') (allFunctions : Bool)
    (mode : CountingMode) :
    (fileCoverage mode allFunctions rows).coveredLines ≤
        (fileCoverage mode allFunctions rows').coveredLines ∧
      (fileCoverage mode allFunctions rows').untouchedLines ≤
        (fileCoverage mode allFunctions rows).untouchedLines ∧
      ((fileCoverage mode allFunctions rows).linePercentage : Percentage Rat).value ≤
        ((fileCoverage mode allFunctions rows').linePercentage : Percentage Rat).value := by
  have hfunctions := improves_functionBlocks allFunctions h
  have hresidue := improves_residue h
  have hcovered : (fileCoverage mode allFunctions rows).coveredLines ≤
      (fileCoverage mode allFunctions rows').coveredLines := by
    rw [coveredLines_fileCoverage, coveredLines_fileCoverage]
    exact Nat.add_le_add (total_coveredIn_le hfunctions) hresidue.tallies.coveredIn
  have huntouched : (fileCoverage mode allFunctions rows').untouchedLines ≤
      (fileCoverage mode allFunctions rows).untouchedLines := by
    rw [untouchedLines_fileCoverage, untouchedLines_fileCoverage]
    exact Nat.add_le_add (total_untouchedIn_le hfunctions) hresidue.tallies.untouchedIn
  exact ⟨hcovered, huntouched, Percentage.value_ofRatio_le (lineShare_le hcovered huntouched)⟩

/-- A function around an assembly block of which one row has a counter.  The header takes the outcome
    of that row. -/
def assemblyFunction (marker : Text) : List Text :=
  ["1|1|*|function f() public \x7b".toList, "2|||assembly \x7b".toList,
    Columns.text ⟨"3".toList, "0".toList, marker, "mstore(0, 1)".toList⟩, "4|||\x7d".toList,
    "5|||\x7d".toList]

theorem coverage_le_assemblyFunction :
    List.Forall₂ SameOrStarred (assemblyFunction []) (assemblyFunction ['*']) ∧
      (fileCoverage .standard false (assemblyFunction [])).coveredLines = 1 ∧
      (fileCoverage .standard false (assemblyFunction ['*'])).coveredLines = 3 ∧
      ((fileCoverage .standard false (assemblyFunction [])).linePercentage : Percentage Rat).value ≤
        ((fileCoverage .standard false (assemblyFunction ['*'])).linePercentage : Percentage Rat).value := by
  have hstarred : List.Forall₂ SameOrStarred (assemblyFunction []) (assemblyFunction ['*']) := by
    refine .cons (.same _) (.cons (.same _) (.cons ?_ (.cons (.same _) (.cons (.same _) .nil))))
    exact .starred ⟨by decide, by decide, by decide⟩ rfl rfl
  exact ⟨hstarred, by decide, by decide, (coverage_le_of_starred hstarred false .standard).2.2⟩

/-! ## Functions -/

theorem functionShare_le_of_improves (h : List.Forall₂ Block.Improves blocks blocks') :
    (Coverage.ofBlocks mode blocks).functionShare ≤ (Coverage.ofBlocks mode blocks').functionShare :=
  functionShare_le h.length_eq (countP_isFullyCoveredIn_le h)

/-- **Covering more lines never lowers function coverage, unless the rows outside of every function
    come to count by it.**  In the standard mode it does not even then, and in logical coverage it is
    that one block alone that may lower it. -/
theorem functionShare_le_of_starred (h : List.Forall₂ SameOrStarred rows rows') (allFunctions : Bool)
    (mode : CountingMode) :
    (mode = .standard ∨ ¬ OutsideAppears rows rows' →
        (fileCoverage mode allFunctions rows).functionShare ≤
          (fileCoverage mode allFunctions rows').functionShare) ∧
      (OutsideAppears rows rows' → ∃ block,
        fileBlocks allFunctions rows' = functionBlocks allFunctions rows' ++ [block] ∧
        block.isFullyCoveredIn .logical = false ∧
        (fileCoverage mode allFunctions rows).functionShare ≤
          (Coverage.ofBlocks mode (functionBlocks allFunctions rows')).functionShare) := by
  have hfunctions := improves_functionBlocks allFunctions h
  constructor
  · intro hmode
    by_cases houtside : OutsideAppears rows rows'
    · -- one block more, which is fully covered
      obtain rfl := hmode.resolve_right (not_not_intro houtside)
      obtain ⟨hbefore, block, hafter, hfull, -⟩ := fileBlocks_of_outsideAppears allFunctions h houtside
      rw [fileCoverage, fileCoverage, hbefore, hafter]
      apply functionShare_le_of_one_more
      · simp [Coverage.ofBlocks, hfunctions.length_eq]
      · simp only [Coverage.ofBlocks, List.countP_append, List.countP_singleton, if_pos hfull]
        exact Nat.add_le_add_right (countP_isFullyCoveredIn_le hfunctions) 1
      · exact List.countP_le_length
    · exact functionShare_le_of_improves (improves_fileBlocks allFunctions h houtside)
  · intro houtside
    obtain ⟨hbefore, block, hafter, -, hlogical⟩ := fileBlocks_of_outsideAppears allFunctions h houtside
    refine ⟨block, hafter, hlogical, ?_⟩
    rw [fileCoverage, hbefore]
    exact functionShare_le_of_improves hfunctions

/-- A state variable with a counter, and a covered function. -/
def variableAndFunction (marker : Text) : List Text :=
  [Columns.text ⟨"1".toList, "1".toList, marker, "uint256 public total;".toList⟩,
    "2|1|*|function f() public \x7b".toList, "3|1|*|total = 1;".toList, "4|||\x7d".toList]

theorem starred_variableAndFunction :
    List.Forall₂ SameOrStarred (variableAndFunction []) (variableAndFunction ['*']) := by
  refine .cons ?_ (.cons (.same _) (.cons (.same _) (.cons (.same _) .nil)))
  exact .starred ⟨by decide, by decide, by decide⟩ rfl rfl

theorem functionShare_le_variableAndFunction :
    OutsideAppears (variableAndFunction []) (variableAndFunction ['*']) ∧
      (fileCoverage .standard false (variableAndFunction [])).functionShare ≤
        (fileCoverage .standard false (variableAndFunction ['*'])).functionShare ∧
      (fileCoverage .logical false (variableAndFunction [])).functionShare ≤
        (Coverage.ofBlocks .logical (functionBlocks false (variableAndFunction ['*']))).functionShare := by
  have houtside : OutsideAppears (variableAndFunction []) (variableAndFunction ['*']) := by decide
  have hstandard := (functionShare_le_of_starred starred_variableAndFunction false .standard).1 (.inl rfl)
  obtain ⟨block, -, -, hlogical⟩ :=
    (functionShare_le_of_starred starred_variableAndFunction false .logical).2 houtside
  exact ⟨houtside, hstandard, hlogical⟩

/-- In logical coverage the star lowers the share from one to a half. -/
theorem functionShare_lt_variableAndFunction :
    List.Forall₂ SameOrStarred (variableAndFunction []) (variableAndFunction ['*']) ∧
      (fileCoverage .logical false (variableAndFunction ['*'])).functionShare <
        (fileCoverage .logical false (variableAndFunction [])).functionShare := by
  refine ⟨starred_variableAndFunction, ?_⟩
  have hbefore : fileCoverage .logical false (variableAndFunction []) =
      { totalFunctions := 1, fullyCoveredFunctions := 1, coveredLines := 1, revertedFunctions := 0,
        untouchedLines := 0 } := by decide
  have hafter : fileCoverage .logical false (variableAndFunction ['*']) =
      { totalFunctions := 2, fullyCoveredFunctions := 1, coveredLines := 1, revertedFunctions := 0,
        untouchedLines := 0 } := by decide
  rw [hbefore, hafter]
  norm_num [Coverage.functionShare]

end FuzzCoverage

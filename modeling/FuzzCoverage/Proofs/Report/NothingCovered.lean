import FuzzCoverage.Proofs.Report.OpenLines
import FuzzCoverage.Report.Sheet

/-! # Files without any covered line

Whether a function is touched is a question about its lines: some line ran, reverting or not.  Whether a
file is uncovered is one about sums that depend on how lines are counted, and these pass over some lines
that ran (`Scan.Line.isPassedOver`): over reverted ones in the standard mode, and in logical coverage over
covered ones that are not logical.  A file is uncovered exactly if nothing else ran in it
(`hasNothingCovered_iff`), and then its summary has a single line in place of the figures. -/

namespace FuzzCoverage

open Layout (Grid)
open Scan Trace

/-! ## Lines that ran -/

namespace Scan.Line

/-- Whether a line ran, reverting or not. -/
def hasRun (line : Line) : Bool := line.outcome.coveredIn .standard || line.outcome.isReverted

/-- Whether a way of counting does not count a line with this marker as covered, although it ran. -/
def isPassedOver : CountingMode → Line → Bool
  | .standard, line => line.row.marker == .reverted
  | .logical, line => line.row.marker == .covered && !line.isLogical

theorem hasRun_of_coveredIn {mode : CountingMode} {line : Line} (h : line.outcome.coveredIn mode) :
    line.hasRun := by
  rw [hasRun]
  cases mode with
  | standard => rw [h, Bool.true_or]
  | logical =>
    generalize line.outcome = outcome at h
    cases outcome with
    | uncounted => cases h
    | covered logical => rfl
    | reverted snippet => rfl
    | untouched logical snippet => cases h

theorem coveredIn_of_hasRun {line : Line} (h : line.hasRun) (mode : CountingMode) :
    line.outcome.coveredIn mode = !line.isPassedOver mode := by
  have hfares := line.fares
  rw [hasRun] at h
  generalize line.outcome = outcome at h hfares
  cases hfares with
  | uncounted idle => cases h
  | untouched active marker => cases h
  | covered active marker =>
    cases mode with
    | standard => simp [isPassedOver, marker, Outcome.coveredIn]
    | logical => simp [isPassedOver, marker, Outcome.coveredIn]
  | reverted active marker =>
    cases mode with
    | standard => simp [isPassedOver, marker, Outcome.coveredIn]
    | logical => simp [isPassedOver, marker, Outcome.coveredIn]

theorem coveredIn_eq (mode : CountingMode) (line : Line) :
    line.outcome.coveredIn mode = (line.hasRun && !line.isPassedOver mode) := by
  cases hrun : line.hasRun with
  | true => rw [coveredIn_of_hasRun hrun, Bool.true_and]
  | false =>
    rw [Bool.false_and, ← Bool.not_eq_true]
    intro hcovered
    rw [hasRun_of_coveredIn hcovered] at hrun
    cases hrun

end Scan.Line

/-! ## Functions that ran -/

section

variable {o : Options} {s : Segment} {f : FunctionReport} {lines : List Line}

theorem Block.SumsUp.isTouched_iff {b : Block} (h : b.SumsUp lines) :
    b.isTouched ↔ ∃ line ∈ lines, line.hasRun := by
  have hcovered := h.coveredIn_pos_iff .standard
  rw [Tallies.coveredIn, Nat.pos_iff_ne_zero] at hcovered
  have hreverted := h.isReverted_iff
  rw [Block.isReverted, bne_iff_ne] at hreverted
  simp only [Block.isTouched, Line.hasRun, Bool.or_eq_true, bne_iff_ne, hcovered, hreverted, and_or_left,
    exists_or]

theorem FunctionReport.IsOn.touched_iff (h : f.IsOn o s lines) :
    f.touched ↔ ∃ line ∈ lines, line.hasRun := by
  obtain ⟨-, ownLines⟩ := h
  exact ownLines.sumsUp.isTouched_iff

end

/-! ## Files without any covered line -/

theorem Count.total_eq_zero_iff (counts : List Nat) : total counts = 0 ↔ ∀ n ∈ counts, n = 0 := by
  induction counts with
  | nil => simp [total]
  | cons n rest ih => rw [total_cons, Nat.add_eq_zero_iff, ih, List.forall_mem_cons]

theorem FileReport.hasNothingCovered_ofBlocks_iff (mode : CountingMode) (path : SourcePath)
    (blocks : List Block) :
    (ofBlocks mode path blocks).coverage.hasNothingCovered ↔
      ∀ block ∈ blocks, block.tallies.coveredIn mode = 0 := by
  rw [Coverage.hasNothingCovered, beq_iff_eq, ofBlocks, Coverage.ofBlocks, Count.total_eq_zero_iff,
    List.forall_mem_map]

theorem Block.SumsUp.coveredIn_eq_zero_iff {b : Block} {lines : List Line} (h : b.SumsUp lines)
    (mode : CountingMode) :
    b.tallies.coveredIn mode = 0 ↔ ∀ line ∈ lines, line.hasRun → line.isPassedOver mode := by
  rw [h.coveredIn, List.countP_eq_zero]
  simp [Line.coveredIn_eq]

theorem FileReport.hasNothingCovered_ofSegment_iff (o : Options) (s : Segment) :
    (ofSegment o s).coverage.hasNothingCovered ↔
      ∀ (f : FunctionReport) (lines : List Line), f.IsOn o s lines →
        f.touched → ∀ line ∈ lines, line.hasRun → line.isPassedOver o.mode := by
  rw [ofSegment, hasNothingCovered_ofBlocks_iff]
  constructor
  · rintro h f lines ⟨mem, ownLines⟩ -
    exact (ownLines.sumsUp.coveredIn_eq_zero_iff o.mode).1 (h _ mem)
  · intro h block hblock
    obtain ⟨lines, hown⟩ := exists_ownLines (fileBlocks_eq_blocksOfRows .. ▸ hblock)
    have hon : (FunctionReport.ofBlock o.mode block).IsOn o s lines := .intro hblock hown
    refine (hown.sumsUp.coveredIn_eq_zero_iff o.mode).2 fun line hline hrun => ?_
    exact h _ lines hon (hon.touched_iff.2 ⟨line, hline, hrun⟩) line hline hrun

/-! ## The sheet -/

theorem Coverage.length_lines_grid (c : Coverage) : c.grid.lines.length = 17 := by
  simp [Grid.lines, grid]

theorem FileReport.grid_infix_sheetLines_iff (r : FileReport) (detail : Detail) (threshold : Float) :
    r.coverage.grid.lines <:+: r.sheetLines detail threshold ↔
      ¬ (r.coverage.hasNothingCovered ∧ detail = .summary) := by
  rw [sheetLines]
  by_cases h : r.coverage.hasNothingCovered ∧ detail = .summary
  · refine iff_of_false (fun hinfix => ?_) (not_not_intro h)
    -- the one line that stands there is fewer than those of the grid
    have hlength := hinfix.length_le
    simp [h, Coverage.length_lines_grid] at hlength
  · have hfigures : (r.coverage.hasNothingCovered && detail = .summary) = false :=
      Bool.eq_false_iff.2 fun hboth => h (by simpa using hboth)
    refine iff_of_true ?_ h
    exact ⟨[[], sheetRule, "File: ".toList ++ r.path.key, sheetRule],
      r.functionLines detail ++ r.warningLines threshold ++ [sheetRule], by simp [hfigures]⟩

/-- **Which files are uncovered.**  A function is touched if one of its lines ran.  A file has no covered
    line exactly if every line that ran in its touched functions is passed over: reverted in the standard
    mode, and in logical coverage covered and not logical.  Then, and only then, its figures are left
    out of a summary. -/
theorem hasNothingCovered_iff {o : Options} {trace : Text} {r : FileReport} (hr : r ∈ analyze o trace) :
    ∃ s ∈ segments o trace, r = FileReport.ofSegment o s ∧
      (∀ (f : FunctionReport) (lines : List Line), f.IsOn o s lines →
        (f.touched ↔ ∃ line ∈ lines, line.hasRun)) ∧
      (r.coverage.hasNothingCovered ↔
        ∀ (f : FunctionReport) (lines : List Line), f.IsOn o s lines →
          f.touched → ∀ line ∈ lines, line.hasRun → line.isPassedOver o.mode) ∧
      ∀ (detail : Detail) (threshold : Float),
        (r.coverage.grid.lines <:+: r.sheetLines detail threshold ↔
          ¬ (r.coverage.hasNothingCovered ∧ detail = .summary)) := by
  obtain ⟨s, hs, rfl⟩ := List.mem_map.1 hr
  exact ⟨s, hs, rfl, fun f lines hon => hon.touched_iff, FileReport.hasNothingCovered_ofSegment_iff o s,
    FileReport.grid_infix_sheetLines_iff _⟩

/-- A function that reverted on its only line. -/
def revertedOnly : Text := "/p/src/A.sol\n1|1|r|function f() public \x7b \x7d\n".toList

theorem isPassedOver_revertedOnly :
    ∃ r ∈ analyze {} revertedOnly, r.coverage.hasNothingCovered ∧ ∃ s ∈ segments {} revertedOnly,
      r = FileReport.ofSegment {} s ∧
        ∀ (f : FunctionReport) (lines : List Line), f.IsOn {} s lines →
          f.touched → ∀ line ∈ lines, line.hasRun → line.row.marker = .reverted := by
  obtain ⟨r, hr, hnothing⟩ : ∃ r ∈ analyze {} revertedOnly, r.coverage.hasNothingCovered := by decide
  obtain ⟨s, hs, heq, -, hiff, -⟩ := hasNothingCovered_iff hr
  refine ⟨r, hr, hnothing, s, hs, heq, fun f lines hon htouched line hline hrun => ?_⟩
  exact eq_of_beq (hiff.1 hnothing f lines hon htouched line hline hrun)

/-- A function that ran on its only line, which is not logical. -/
def coveredHeading : Text :=
  "/p/logical/LogicalA.sol\n1|1|*|receive() external payable \x7b\x7d\n".toList

/-- Their functions are touched, and still the files have no covered line and no figures. -/
theorem touched_of_hasNothingCovered :
    (∃ r ∈ analyze {} revertedOnly, (∃ f ∈ r.functions, f.touched) ∧ r.coverage.hasNothingCovered ∧
      ∀ threshold, "File totally uncovered".toList ∈ r.sheetLines .summary threshold) ∧
    ∃ r ∈ analyze { mode := .logical } coveredHeading, (∃ f ∈ r.functions, f.touched) ∧
      r.coverage.hasNothingCovered ∧
        ∀ threshold, "File totally uncovered".toList ∈ r.sheetLines .summary threshold := by
  have hline : ∀ r : FileReport, r.coverage.hasNothingCovered → ∀ threshold,
      "File totally uncovered".toList ∈ r.sheetLines .summary threshold := by
    intro r hnothing threshold
    simp [FileReport.sheetLines, hnothing]
  constructor
  · obtain ⟨r, hr, htouched, hnothing⟩ : ∃ r ∈ analyze {} revertedOnly, (∃ f ∈ r.functions, f.touched) ∧
        r.coverage.hasNothingCovered := by decide
    exact ⟨r, hr, htouched, hnothing, hline r hnothing⟩
  · obtain ⟨r, hr, htouched, hnothing⟩ : ∃ r ∈ analyze { mode := .logical } coveredHeading,
        (∃ f ∈ r.functions, f.touched) ∧ r.coverage.hasNothingCovered := by decide
    exact ⟨r, hr, htouched, hnothing, hline r hnothing⟩

end FuzzCoverage

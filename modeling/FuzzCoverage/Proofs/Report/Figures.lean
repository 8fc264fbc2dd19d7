import FuzzCoverage.Proofs.Scan.AssemblyHeaders
import FuzzCoverage.Proofs.Scan.Counting
import FuzzCoverage.Proofs.Trace.Grouping
import FuzzCoverage.Report.Basic
import Mathlib.Algebra.Order.BigOperators.Group.List

/-! # The figures of reports

The figures of a report are computed from the blocks of its file, and its functions are made of the
same blocks one by one: so the figures are those of the functions (`FileReport.AddsUp`).

Over all reports on a trace, no line is counted twice, and none as covered and untouched at once.  The
bound is shown where lines are handed on: from a file to its blocks (`linesIn_blocksOfRows_le`), from
the sections of a trace to its files (`sum_length_gather_le`), and from the trace to its sections
(`length_kept_le`). -/

namespace FuzzCoverage

open Scan Trace

theorem Count.total_eq_sum (counts : List Nat) : total counts = counts.sum := List.sum_eq_foldr.symm

theorem countP_add_countP_le {α : Type} {p q : α → Bool} {l : List α}
    (h : ∀ a ∈ l, p a → q a = false) : l.countP p + l.countP q ≤ l.length := by
  have hother : l.countP q ≤ l.countP (fun a => decide ¬p a) := by
    refine List.countP_mono_left fun a ha hq => decide_eq_true fun hp => ?_
    rw [h a ha hp] at hq
    cases hq
  rw [List.length_eq_countP_add_countP p]
  exact Nat.add_le_add_left hother _

/-! ## Figures and functions -/

structure FileReport.AddsUp (r : FileReport) : Prop where
  totalFunctions : r.coverage.totalFunctions = r.functions.length
  fullyCoveredFunctions : r.coverage.fullyCoveredFunctions = r.functions.countP (·.isFullyCovered)
  revertedFunctions : r.coverage.revertedFunctions = r.functions.countP (·.reverted)
  untouchedLines : r.coverage.untouchedLines = (r.functions.map (·.untouchedLineCount)).sum
  fullyCovered_add_reverted_le :
    r.coverage.fullyCoveredFunctions + r.coverage.revertedFunctions ≤ r.coverage.totalFunctions
  incompleteFunctions :
    r.incompleteFunctions.length = r.coverage.totalFunctions - r.coverage.fullyCoveredFunctions

theorem Block.isReverted_of_isFullyCoveredIn {b : Block} {mode : CountingMode}
    (h : b.isFullyCoveredIn mode) : b.isReverted = false := by
  simp only [isFullyCoveredIn, Bool.and_eq_true, beq_iff_eq] at h
  simp [isReverted, h.2]

theorem FileReport.addsUp_ofBlocks (mode : CountingMode) (path : SourcePath) (blocks : List Block) :
    (ofBlocks mode path blocks).AddsUp where
  totalFunctions := (List.length_map _).symm
  fullyCoveredFunctions := by
    rw [ofBlocks, List.countP_map]
    rfl
  revertedFunctions := by
    rw [ofBlocks, List.countP_map]
    rfl
  untouchedLines := by
    have hsum := Count.total_eq_sum (blocks.map (·.tallies.untouchedIn mode))
    simpa [ofBlocks, Coverage.ofBlocks, FunctionReport.ofBlock, Function.comp_def] using hsum
  fullyCovered_add_reverted_le :=
    countP_add_countP_le fun _ _ hfull => Block.isReverted_of_isFullyCoveredIn hfull
  incompleteFunctions := by
    have hparts := blocks.length_eq_countP_add_countP (fun b => b.isFullyCoveredIn mode)
    have hothers : (ofBlocks mode path blocks).incompleteFunctions.length =
        blocks.countP (fun b => decide ¬b.isFullyCoveredIn mode) := by
      rw [incompleteFunctions, ← List.countP_eq_length_filter, ofBlocks, List.countP_map]
      exact List.countP_congr fun b _ => by simp [FunctionReport.ofBlock]
    rw [hothers]
    exact Nat.eq_sub_of_add_eq' hparts.symm

/-! ## Lines of a file -/

/-- The lines of a block that its coverage is about. -/
def Block.linesIn (mode : CountingMode) (b : Block) : Nat :=
  b.tallies.coveredIn mode + b.tallies.untouchedIn mode

theorem Coverage.lines_ofBlocks (mode : CountingMode) (blocks : List Block) :
    (ofBlocks mode blocks).lines = (blocks.map (Block.linesIn mode)).sum := by
  rw [lines, ofBlocks, Count.total_eq_sum, Count.total_eq_sum, ← List.sum_map_add]
  rfl

theorem Block.SumsUp.linesIn_le {b : Block} {lines : List Line} (h : b.SumsUp lines)
    (mode : CountingMode) : b.linesIn mode ≤ lines.length := by
  rw [Block.linesIn, h.coveredIn, h.untouchedIn]
  exact countP_add_countP_le fun _ _ hcovered => Outcome.untouchedIn_eq_false hcovered

namespace Scan

theorem Part.linesIn_le (mode : CountingMode) (part : Part) :
    part.block?.elim 0 (Block.linesIn mode) + part.residue.length ≤ part.lines.length := by
  cases part with
  | outside line =>
    have hresidue := (Part.outside line).residue_sublist.length_le
    simpa [Part.block?] using hresidue
  | dropped lines => exact Nat.zero_le _
  | definition unit heading brace body =>
    exact (definitionBlock_sumsUp unit heading brace body).linesIn_le mode

/-- A line of a file counts for one part of its division. -/
theorem linesIn_parts_le (mode : CountingMode) (parts : List Part) :
    ((parts.filterMap Part.block?).map (Block.linesIn mode)).sum + (parts.flatMap Part.residue).length ≤
      (parts.flatMap Part.lines).length := by
  induction parts with
  | nil => exact Nat.le_refl _
  | cons part parts ih =>
    have hpart := part.linesIn_le mode
    rw [List.flatMap_cons, List.flatMap_cons, List.length_append, List.length_append]
    cases hblock : part.block? with
    | none =>
      rw [List.filterMap_cons_none hblock]
      simp only [hblock, Option.elim_none] at hpart
      omega
    | some block =>
      rw [List.filterMap_cons_some hblock, List.map_cons, List.sum_cons]
      simp only [hblock, Option.elim_some] at hpart
      omega

theorem linesIn_blocksOfRows_le (mode : CountingMode) (allFunctions : Bool) (rows : List Row) :
    ((blocksOfRows allFunctions rows).map (Block.linesIn mode)).sum ≤ rows.length := by
  obtain ⟨parts, hparts⟩ := exists_divides (linesOf false (fillAssemblyHeaders rows))
  obtain ⟨hblocks, hresidue⟩ := State.run_of_divides hparts
  rw [blocksOfRows, List.map_append, List.sum_append]
  generalize ({} : State).run (fillAssemblyHeaders rows) = s at hblocks hresidue
  have hfunctions : ((withoutViewPure allFunctions s.blocks).map (Block.linesIn mode)).sum ≤
      ((parts.filterMap Part.block?).map (Block.linesIn mode)).sum := by
    rw [hblocks]
    exact ((withoutViewPure_sublist allFunctions _).map _).sum_le_sum fun _ _ => Nat.zero_le _
  have houtside : (s.residue?.toList.map (Block.linesIn mode)).sum ≤
      (parts.flatMap Part.residue).length := by
    cases hblock : s.residue? with
    | none => exact Nat.zero_le _
    | some block => simpa using (State.residue?_sumsUp hresidue hblock).linesIn_le mode
  calc _ ≤ ((parts.filterMap Part.block?).map (Block.linesIn mode)).sum +
        (parts.flatMap Part.residue).length := Nat.add_le_add hfunctions houtside
    _ ≤ (parts.flatMap Part.lines).length := linesIn_parts_le mode parts
    _ = rows.length := by rw [hparts.flatMap_lines, length_linesOf, length_fillAssemblyHeaders]

end Scan

/-! ## Lines of a trace -/

namespace Trace

/-- At most one segment has the key of a section, and gets its lines. -/
theorem sum_length_insert_le {groups : List Segment} (h : (groups.map Segment.key).Nodup)
    (s : Segment) :
    ((insert groups s).map (·.lines.length)).sum ≤
      (groups.map (·.lines.length)).sum + s.lines.length := by
  have hmerge : ((groups.map fun t => if t.key = s.key then { t with lines := t.lines ++ s.lines }
      else t).map (·.lines.length)).sum ≤ (groups.map (·.lines.length)).sum + s.lines.length := by
    induction groups with
    | nil => exact Nat.zero_le _
    | cons t groups ih =>
      obtain ⟨hnew, hnodup⟩ := List.nodup_cons.1 h
      rw [List.map_cons]
      by_cases hkey : t.key = s.key
      · -- no other segment has the key, so that the rest of them stay as they are
        rw [map_insert_of_notMem (hkey ▸ hnew), if_pos hkey]
        simp only [List.map_cons, List.sum_cons, List.length_append]
        omega
      · rw [if_neg hkey]
        simp only [List.map_cons, List.sum_cons]
        have hrest := ih hnodup
        omega
  rw [insert]
  split
  · exact hmerge
  · simp

theorem sum_length_gather_le (parts : List Segment) :
    ((gather parts).map (·.lines.length)).sum ≤ (parts.map (·.lines.length)).sum := by
  induction parts using List.reverseRecOn with
  | nil => exact Nat.le_refl _
  | append_singleton parts s ih =>
    have hinsert := sum_length_insert_le (grouped_gather parts).nodup s
    rw [gather_concat, List.map_append, List.sum_append]
    simp only [List.map_cons, List.map_nil, List.sum_cons, List.sum_nil]
    omega

theorem map_fst_placed (lines : List Text) : (placed lines).map Prod.fst = lines := by
  rw [placed, List.map_fst_zip]
  simp

theorem length_kept_le (o : Options) (lines : List Text) :
    (((sections lines).filter (isKept o ·.path)).flatMap Segment.lines).length ≤
      lines.countP (!SourcePath.isMarker ·) := by
  have hbelow := map_fst_filter_isBelow (isKept o) [] lines
  simp only [lastMarker?, List.filterMap_nil, List.getLast?_nil, Option.any_none, List.nil_append,
    Bool.false_eq_true, if_false] at hbelow
  rw [← hbelow, List.length_map, ← List.countP_eq_length_filter]
  calc (placed lines).countP (isBelow (isKept o))
      ≤ (placed lines).countP fun place => !SourcePath.isMarker place.1 :=
        List.countP_mono_left fun place _ hplace => (Bool.and_eq_true_iff.1 hplace).1
    _ = ((placed lines).map Prod.fst).countP (!SourcePath.isMarker ·) := by
        rw [List.countP_map]
        rfl
    _ = lines.countP (!SourcePath.isMarker ·) := by rw [map_fst_placed]

theorem sum_length_segments_le (o : Options) (trace : Text) :
    ((segments o trace).map (·.lines.length)).sum ≤ trace.lines.countP (!SourcePath.isMarker ·) := by
  have hkept := length_kept_le o trace.lines
  rw [List.length_flatMap] at hkept
  exact (sum_length_gather_le _).trans hkept

end Trace

/-! ## Reports on a trace -/

theorem lines_ofSegment_le (o : Options) (s : Segment) :
    (FileReport.ofSegment o s).coverage.lines ≤ s.lines.length := by
  have hrows : (parseRows s.lines).length ≤ s.lines.length := List.length_filterMap_le _ _
  rw [FileReport.ofSegment, FileReport.ofBlocks, Coverage.lines_ofBlocks, fileBlocks_eq_blocksOfRows]
  exact (linesIn_blocksOfRows_le o.mode o.allFunctions _).trans hrows

/-- **The figures add up.**  Each report counts its own functions and their untouched lines, calls none
    of them fully covered and reverted at once, and finds all others than the fully covered ones
    incomplete.  All reports on a trace together count no more lines as covered or untouched than the
    trace has besides its markers, whichever way lines are counted. -/
theorem analyze_addsUp (o : Options) (trace : Text) :
    (∀ r ∈ analyze o trace, r.AddsUp) ∧
      ((analyze o trace).map fun r => r.coverage.coveredLines + r.coverage.untouchedLines).sum ≤
        trace.lines.countP (!SourcePath.isMarker ·) := by
  constructor
  · intro r hr
    obtain ⟨s, -, rfl⟩ := List.mem_map.1 hr
    exact FileReport.addsUp_ofBlocks _ _ _
  · calc ((analyze o trace).map fun r => r.coverage.lines).sum
        = ((segments o trace).map fun s => (FileReport.ofSegment o s).coverage.lines).sum := by
          rw [analyze, List.map_map]
          rfl
      _ ≤ ((segments o trace).map (·.lines.length)).sum :=
          List.sum_le_sum fun s _ => lines_ofSegment_le o s
      _ ≤ trace.lines.countP (!SourcePath.isMarker ·) := sum_length_segments_le o trace

end FuzzCoverage

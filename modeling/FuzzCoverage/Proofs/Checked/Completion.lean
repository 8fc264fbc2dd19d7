import FuzzCoverage.Proofs.Checked.Reading
import FuzzCoverage.Proofs.Checked.Scanning
import FuzzCoverage.Proofs.Report.Figures

/-! # The analysis completes

A trace of fewer bytes than a signed word counts is analyzed with every operation in range
(`analyze_completes`).  What the operations need of rows and of files comes from the bytes of the trace,
which are handed on from the trace to its lines (`sum_byteCount_lines_le`), from these to the lines of a
file (`lines_sublist_of_mem_segments`), and from the lines to rows (`sum_extent_parseRows_le`). -/

namespace FuzzCoverage

open Decimal (word64)
open Checked (signedLimit)
open Scan Trace

/-! ## Bytes -/

namespace Text

theorem byteCount_le_of_sublist {t u : Text} (h : t.Sublist u) : t.byteCount ≤ u.byteCount := by
  rw [byteCount, byteCount, Count.total_eq_sum, Count.total_eq_sum]
  exact (h.map _).sum_le_sum fun _ _ => Nat.zero_le _

theorem byteCount_flatten (parts : List Text) : byteCount parts.flatten = (parts.map byteCount).sum := by
  induction parts with
  | nil => rfl
  | cons part parts ih => rw [List.flatten_cons, byteCount_append, ih, List.map_cons, List.sum_cons]

theorem flatten_sublist_intercalate (divider : Text) (parts : List Text) :
    parts.flatten.Sublist (divider.intercalate parts) := by
  induction parts with
  | nil => exact List.nil_sublist _
  | cons part parts ih =>
    cases parts with
    | nil => simp
    | cons next parts =>
      rw [List.intercalate_cons_cons, List.flatten_cons, List.append_assoc]
      exact (List.Sublist.refl part).append (ih.trans (List.sublist_append_right _ _))

/-- The parts of a text have their bytes in it, besides those of the dividers. -/
theorem sum_byteCount_splitOn_le (divider : Char) (t : Text) :
    ((t.splitOn divider).map byteCount).sum ≤ t.byteCount := by
  have hfull : [divider].intercalate (t.splitOn divider) = t := List.intercalate_splitOn divider
  have hflatten := byteCount_le_of_sublist (flatten_sublist_intercalate [divider] (t.splitOn divider))
  rwa [hfull, byteCount_flatten] at hflatten

theorem dropCarriageReturn_sublist (line : Text) : line.dropCarriageReturn.Sublist line := by
  rw [dropCarriageReturn]
  split
  · exact List.dropLast_sublist line
  · exact List.Sublist.refl line

theorem sum_byteCount_lines_le (t : Text) : (t.lines.map byteCount).sum ≤ t.byteCount := by
  refine le_trans ?_ (sum_byteCount_splitOn_le '\n' t)
  rw [lines]
  generalize t.splitOn '\n' = parts
  have hends : ((parts.dropLast.map dropCarriageReturn).map byteCount).sum ≤
      (parts.dropLast.map byteCount).sum := by
    rw [List.map_map]
    exact List.sum_le_sum fun line _ => byteCount_le_of_sublist (dropCarriageReturn_sublist line)
  have hlast : (((parts.drop (parts.length - 1)).filter (· ≠ [])).map byteCount).sum ≤
      ((parts.drop (parts.length - 1)).map byteCount).sum :=
    (List.filter_sublist.map _).sum_le_sum fun _ _ => Nat.zero_le _
  calc ((parts.dropLast.map dropCarriageReturn ++
          (parts.drop (parts.length - 1)).filter (· ≠ [])).map byteCount).sum
      ≤ (parts.dropLast.map byteCount).sum + ((parts.drop (parts.length - 1)).map byteCount).sum := by
        rw [List.map_append, List.sum_append]
        exact Nat.add_le_add hends hlast
    _ = (parts.map byteCount).sum := by
        rw [← List.sum_append, ← List.map_append, List.dropLast_eq_take, List.take_append_drop]

end Text

/-! ## Lines of a file -/

namespace Trace

/-- The sections of files that are asked for hold lines in their order, and none of them twice. -/
theorem lines_sections_sublist (asked : SourcePath → Bool) (lines : List Text) :
    (((sections lines).filter (asked ·.path)).flatMap Segment.lines).Sublist lines := by
  have hbelow := map_fst_filter_isBelow asked [] lines
  simp only [lastMarker?, List.filterMap_nil, List.getLast?_nil, Option.any_none, List.nil_append,
    Bool.false_eq_true, if_false] at hbelow
  have hplaced : (((placed lines).filter (isBelow asked)).map Prod.fst).Sublist ((placed lines).map Prod.fst) :=
    List.filter_sublist.map _
  rw [map_fst_placed] at hplaced
  exact hbelow ▸ hplaced

theorem lines_sublist_of_mem_segments {o : Options} {trace : Text} {s : Segment}
    (h : s ∈ segments o trace) : s.lines.Sublist trace.lines := by
  have hlines := (grouped_gather ((sections trace.lines).filter (isKept o ·.path))).lines s h
  rw [hlines, List.filter_filter]
  exact lines_sections_sublist (fun path => path.key = s.key && isKept o path) trace.lines

end Trace

/-! ## Rows -/

theorem length_source_ofCounted?_le {lineNumber : Option Nat} {second rest : Text} {row : Row}
    (h : Row.ofCounted? lineNumber second rest = some row) : row.source.length ≤ rest.length := by
  simp only [Row.ofCounted?, Option.bind_eq_bind, Option.bind_eq_some_iff, Option.pure_def,
    Option.some.injEq] at h
  obtain ⟨⟨third, source⟩, hcut, -, -, -, -, rfl⟩ := h
  have htrim : source.trim.length ≤ source.length := Text.length_trim_le source
  rw [← Text.append_of_cut? hcut, List.length_append, List.length_cons]
  exact htrim.trans (by omega)

theorem length_source_ofLegacy?_le {lineNumber : Option Nat} {second rest : Text} {row : Row}
    (h : Row.ofLegacy? lineNumber second rest = some row) : row.source.length ≤ rest.length := by
  simp only [Row.ofLegacy?, Option.bind_eq_bind, Option.bind_eq_some_iff, Option.pure_def,
    Option.some.injEq] at h
  obtain ⟨-, -, rfl⟩ := h
  exact Text.length_trim_le rest

/-- A row is longer than its source, by two dividers at least. -/
theorem extent_le_of_parse? {line : Text} {row : Row} (h : Row.parse? line = some row) :
    row.extent ≤ line.length := by
  simp only [Row.parse?, Option.bind_eq_bind, Option.bind_eq_some_iff] at h
  obtain ⟨⟨number, columns⟩, hnumber, ⟨second, rest⟩, hsecond, hrow⟩ := h
  simp only at hsecond hrow
  have hsource : row.source.length ≤ rest.length := by
    rcases (Option.orElse_eq_some _ _ _).1 hrow with hcounted | ⟨-, hlegacy⟩
    · exact length_source_ofCounted?_le hcounted
    · exact length_source_ofLegacy?_le hlegacy
  rw [← Text.append_of_cut? hnumber, ← Text.append_of_cut? hsecond, Row.extent]
  simp only [List.length_append, List.length_cons]
  omega

theorem sum_extent_parseRows_le (lines : List Text) :
    ((parseRows lines).map Row.extent).sum ≤ (lines.map Text.byteCount).sum := by
  induction lines with
  | nil => exact Nat.le_refl _
  | cons line lines ih =>
    have hbytes := Text.length_le_byteCount line
    rw [parseRows] at ih ⊢
    rw [List.map_cons, List.sum_cons]
    cases hrow : Row.parse? line with
    | none =>
      rw [List.filterMap_cons_none hrow]
      omega
    | some row =>
      have hextent := extent_le_of_parse? hrow
      rw [List.filterMap_cons_some hrow, List.map_cons, List.sum_cons]
      omega

theorem map_extent_fillAssemblyHeaders (rows : List Row) :
    (fillAssemblyHeaders rows).map Row.extent = rows.map Row.extent := by
  have hextent : Row.extent = (fun source : Text => source.length + 1) ∘ Row.source := rfl
  rw [hextent, ← List.map_map, ← List.map_map, map_source_fillAssemblyHeaders]

/-! ## Reports -/

namespace Checked

variable {lines : List Text}

theorem mapM_readRow_eq (h : (lines.map Text.byteCount).sum < signedLimit) :
    lines.mapM readRow = .ok (lines.map Row.parse?) := by
  apply mapM_eq_map
  intro line hline
  have hbytes : line.byteCount ≤ (lines.map Text.byteCount).sum :=
    List.le_sum_of_mem (List.mem_map_of_mem hline)
  have hlimit := signedLimit_lt_word64
  exact readRow_eq (by omega)

theorem fileBlocks_eq (allFunctions : Bool) (h : (lines.map Text.byteCount).sum < signedLimit) :
    fileBlocks allFunctions lines = .ok (Scan.fileBlocks allFunctions lines) := by
  have hrows : (lines.map Row.parse?).filterMap id = parseRows lines := by
    rw [parseRows, List.filterMap_map]
    rfl
  have hextent := (sum_extent_parseRows_le lines).trans_lt h
  have hlength := (length_le_extent (parseRows lines)).trans_lt hextent
  rw [← map_extent_fillAssemblyHeaders] at hextent
  rw [fileBlocks, mapM_readRow_eq h, ok_bind, hrows,
    fillAssemblyHeaders_eq (hlength.trans signedLimit_lt_word64), ok_bind, run_eq _ hextent, ok_bind,
    residue?_eq hextent]
  rfl

theorem report_eq {o : Options} {s : Segment} (h : (s.lines.map Text.byteCount).sum < signedLimit) :
    report o s = .ok (FileReport.ofSegment o s) := by
  have hrows := (length_le_extent (parseRows s.lines)).trans (sum_extent_parseRows_le s.lines)
  have hlines := linesIn_blocksOfRows_le o.mode o.allFunctions (parseRows s.lines)
  rw [← Coverage.lines_ofBlocks, ← fileBlocks_eq_blocksOfRows] at hlines
  have hlimit := signedLimit_lt_word64
  have hfits : Count.fits (Coverage.ofBlocks o.mode (Scan.fileBlocks o.allFunctions s.lines)).lines :=
    decide_eq_true (by omega)
  rw [report, fileBlocks_eq o.allFunctions h, ok_bind, Coverage.ofBlocks?_eq, if_pos hfits]
  rfl

/-- **The analysis of a trace completes.**  In a trace of less than 2^63 bytes every operation is in
    range, whatever the options are: the checked analysis returns the reports of the other one. -/
theorem analyze_completes (o : Options) (trace : Text) (h : trace.byteCount < 2 ^ 63) :
    analyze o trace = .ok (FuzzCoverage.analyze o trace) := by
  rw [analyze, segments_eq, ok_bind]
  -- the lines of a file are lines of the trace, and have no more bytes than these
  apply mapM_eq_map
  intro s hs
  have hsublist := (lines_sublist_of_mem_segments hs).map Text.byteCount
  have hbytes := (hsublist.sum_le_sum fun _ _ => Nat.zero_le _).trans (Text.sum_byteCount_lines_le trace)
  exact report_eq (hbytes.trans_lt h)

/-- Legacy rows with dividers and other letters in their sources, a file that is left out, and two paths
    of one key. -/
def poolTrace : Text :=
  (["/p/src/Pool.sol",
    "1|*|function pay(uint a) public \x7b if (a == 0 || ok[\"é\"]) \x7b x = 1; \x7d",
    "2|r|total -= a; // naïve",
    "3||y = 2;",
    "/p/lib/forge-std/Test.sol",
    "1|1|*|function t() public \x7b",
    "/q/src/Pool.sol",
    "4|||assembly \x7b",
    "5|2|*|sstore(0, 1)",
    "6|||\x7d \x7d"].map fun line => line.toList ++ ['\n']).flatten

theorem analyze_completes_poolTrace :
    poolTrace.byteCount < 2 ^ 63 ∧
      analyze {} poolTrace = .ok (FuzzCoverage.analyze {} poolTrace) ∧
      (FuzzCoverage.analyze {} poolTrace).map
          (fun r => (r.path.full, r.coverage.coveredLines, r.coverage.untouchedLines)) =
        [("/p/src/Pool.sol".toList, 3, 1)] :=
  have hbytes : poolTrace.byteCount < 2 ^ 63 := by decide +kernel
  ⟨hbytes, analyze_completes {} poolTrace hbytes, by decide +kernel⟩

end Checked

end FuzzCoverage

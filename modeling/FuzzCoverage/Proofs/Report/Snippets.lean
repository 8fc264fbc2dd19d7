import FuzzCoverage.Proofs.Scan.Counting
import FuzzCoverage.Report.Basic

/-! # The snippets of a report

A scan does not know how lines will be counted: it keeps one list of untouched lines, those of the
standard mode.  A report shows that list in either mode, next to a count that is of its own mode.

So the two agree in the standard mode.  In logical coverage the count is of those lines of the list
that are logical, and a function may be fully covered and still show lines that are not
(`snippets_of_analyze`). -/

namespace FuzzCoverage

open Scan Trace

namespace Scan.Line

def isUntouched (line : Line) : Bool := line.outcome.untouchedIn .standard

/-- Whether a way of counting is about the line at all. -/
def countsIn : CountingMode → Line → Bool
  | .standard, _ => true
  | .logical, line => line.isLogical

theorem untouchedIn_eq (mode : CountingMode) (line : Line) :
    line.outcome.untouchedIn mode = (line.countsIn mode && line.isUntouched) := by
  cases mode with
  | standard => rfl
  | logical => rw [line.untouchedIn_logical, Bool.and_comm, isUntouched, countsIn]

end Scan.Line

/-- What a report on a function with these lines says of the untouched ones among them. -/
structure FunctionReport.ListsUntouched (mode : CountingMode) (f : FunctionReport)
    (lines : List Line) : Prop where
  snippets : f.untouchedSnippets = (lines.filter Line.isUntouched).map (·.row.source)
  count : f.untouchedLineCount = (lines.filter Line.isUntouched).countP (·.countsIn mode)
  fullyCovered : f.isFullyCovered → f.untouchedLineCount = 0

namespace FunctionReport

variable {f : FunctionReport} {b : Block} {lines : List Line} {mode : CountingMode}

theorem listsUntouched_ofBlock (h : b.SumsUp lines) (mode : CountingMode) :
    (ofBlock mode b).ListsUntouched mode lines where
  snippets := h.untouchedSnippets_eq
  count := by
    have huntouched := h.untouchedIn mode
    simp only [Line.untouchedIn_eq] at huntouched
    rw [List.countP_filter]
    exact huntouched
  fullyCovered := by
    intro hfull
    simp only [ofBlock, Block.isFullyCoveredIn, Bool.and_eq_true, beq_iff_eq] at hfull
    exact hfull.1.2

theorem ListsUntouched.count_eq (h : f.ListsUntouched .standard lines) :
    f.untouchedLineCount = f.untouchedSnippets.length := by
  rw [h.count, h.snippets, List.length_map]
  exact List.countP_eq_length.2 fun _ _ => rfl

theorem ListsUntouched.count_le (h : f.ListsUntouched mode lines) :
    f.untouchedLineCount ≤ f.untouchedSnippets.length := by
  rw [h.count, h.snippets, List.length_map]
  exact List.countP_le_length

/-- A fully covered function shows no line that its way of counting is about. -/
theorem ListsUntouched.not_countsIn (h : f.ListsUntouched mode lines) (hfull : f.isFullyCovered) :
    ∀ line ∈ lines.filter Line.isUntouched, line.countsIn mode = false := by
  have hnone := h.fullyCovered hfull
  rw [h.count, List.countP_eq_zero] at hnone
  exact fun line hline => Bool.eq_false_iff.2 (hnone line hline)

end FunctionReport

theorem exists_ownLines_of_mem_analyze {o : Options} {trace : Text} {r : FileReport}
    {f : FunctionReport} (hr : r ∈ analyze o trace) (hf : f ∈ r.functions) :
    ∃ s ∈ segments o trace, s.path = r.path ∧ ∃ block lines,
      OwnLines (parseRows s.lines) block lines ∧ f = FunctionReport.ofBlock o.mode block := by
  obtain ⟨s, hs, rfl⟩ := List.mem_map.1 hr
  obtain ⟨block, hblock, rfl⟩ := List.mem_map.1 hf
  rw [fileBlocks_eq_blocksOfRows] at hblock
  obtain ⟨lines, hlines⟩ := exists_ownLines hblock
  exact ⟨s, hs, rfl, block, lines, hlines, rfl⟩

/-- **What a report shows of untouched lines.**  Each function of a report is a block of its file, and
    its snippets are the sources of the block's lines that are untouched in the standard mode.  In that
    mode it counts all of them, and shows none if it is fully covered.  In logical coverage it counts
    the logical ones among them, which are none if it is fully covered. -/
theorem snippets_of_analyze {o : Options} {trace : Text} {r : FileReport} {f : FunctionReport}
    (hr : r ∈ analyze o trace) (hf : f ∈ r.functions) :
    (o.mode = .standard → f.untouchedLineCount = f.untouchedSnippets.length ∧
      (f.isFullyCovered → f.untouchedSnippets = [])) ∧
    ∃ s ∈ segments o trace, s.path = r.path ∧ ∃ block lines,
      OwnLines (parseRows s.lines) block lines ∧ f = FunctionReport.ofBlock o.mode block ∧
      f.untouchedSnippets = (lines.filter Line.isUntouched).map (·.row.source) ∧
      (o.mode = .logical →
        f.untouchedLineCount = (lines.filter Line.isUntouched).countP Line.isLogical ∧
        f.untouchedLineCount ≤ f.untouchedSnippets.length ∧
        (f.isFullyCovered → ∀ line ∈ lines.filter Line.isUntouched, line.isLogical = false)) := by
  obtain ⟨s, hs, hpath, block, lines, hlines, hblock⟩ := exists_ownLines_of_mem_analyze hr hf
  have hlists : f.ListsUntouched o.mode lines := by
    rw [hblock]
    exact FunctionReport.listsUntouched_ofBlock hlines.sumsUp o.mode
  refine ⟨?_, s, hs, hpath, block, lines, hlines, hblock, hlists.snippets, ?_⟩
  · intro hmode
    rw [hmode] at hlists
    refine ⟨hlists.count_eq, fun hfull => List.eq_nil_of_length_eq_zero ?_⟩
    rw [← hlists.count_eq, hlists.fullyCovered hfull]
  · intro hmode
    rw [hmode] at hlists
    exact ⟨hlists.count, hlists.count_le, fun hfull => hlists.not_countsIn hfull⟩

/-- A function in which no run reached a declaration and a statement. -/
def unreachedStatement : Text :=
  "/p/logical/LogicalA.sol\n1|1|*|function run() public \x7b\n2|0||uint256 z;\n3|0||total += z;\n4|||\x7d\n".toList

theorem snippets_of_unreachedStatement :
    (∃ r ∈ analyze {} unreachedStatement, ∃ f ∈ r.functions,
      f.untouchedSnippets.length = 2 ∧ f.untouchedLineCount = f.untouchedSnippets.length) ∧
    ∃ r ∈ analyze { mode := .logical } unreachedStatement, ∃ f ∈ r.functions,
      f.untouchedSnippets.length = 2 ∧ f.untouchedLineCount = 1 ∧
      ∃ lines : List Line, f.untouchedSnippets = (lines.filter Line.isUntouched).map (·.row.source) ∧
        f.untouchedLineCount = (lines.filter Line.isUntouched).countP Line.isLogical := by
  constructor
  · obtain ⟨r, hr, f, hf, htwo⟩ : ∃ r ∈ analyze {} unreachedStatement, ∃ f ∈ r.functions,
        f.untouchedSnippets.length = 2 := by decide
    exact ⟨r, hr, f, hf, htwo, ((snippets_of_analyze hr hf).1 rfl).1⟩
  · obtain ⟨r, hr, f, hf, htwo, hone⟩ : ∃ r ∈ analyze { mode := .logical } unreachedStatement,
        ∃ f ∈ r.functions, f.untouchedSnippets.length = 2 ∧ f.untouchedLineCount = 1 := by decide
    obtain ⟨-, _, _, _, _, lines, _, _, hsnippets, hlogical⟩ := snippets_of_analyze hr hf
    exact ⟨r, hr, f, hf, htwo, hone, lines, hsnippets, (hlogical rfl).1⟩

/-- A function in which no run reached a declaration. -/
def unreachedDeclaration : Text :=
  "/p/logical/LogicalA.sol\n1|1|*|function run() public \x7b\n2|1|*|total += 1;\n3|0||uint256 z;\n4|||\x7d\n".toList

/-- The declaration is shown in logical coverage, but not counted. -/
theorem snippets_ne_unreachedDeclaration :
    ∃ r ∈ analyze { mode := .logical } unreachedDeclaration, ∃ f ∈ r.functions,
      f.isFullyCovered ∧ f.untouchedLineCount = 0 ∧ f.untouchedSnippets = ["uint256 z;".toList] := by
  decide

end FuzzCoverage

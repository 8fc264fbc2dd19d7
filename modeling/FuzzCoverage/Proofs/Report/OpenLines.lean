import FuzzCoverage.Proofs.Report.Snippets

/-! # The functions that a report lists

A report lists the functions that are not fully covered.  A function with untouched or reverted lines is
one of them, but not the other way round: full coverage takes a covered line too.  So the list holds the
functions with such lines and no others where every function of the file has a line that counts under
the way of counting at all (`listsOpenLines_iff`).  In logical coverage a function may run to its end
without one. -/

namespace FuzzCoverage

open Scan Trace

/-- Whether some line of a function is untouched or reverted. -/
def FunctionReport.hasOpenLines (f : FunctionReport) : Bool := f.untouchedLineCount != 0 || f.reverted

/-- The functions that a report lists are those with untouched or reverted lines. -/
def FileReport.ListsOpenLines (r : FileReport) : Prop :=
  r.incompleteFunctions = r.functions.filter (·.hasOpenLines)

instance (r : FileReport) : Decidable r.ListsOpenLines :=
  inferInstanceAs (Decidable (r.incompleteFunctions = _))

/-! ## Lines -/

namespace Scan.Line

/-- Whether a line is untouched or reverted under a way of counting. -/
def isOpenIn (mode : CountingMode) (line : Line) : Bool :=
  line.outcome.untouchedIn mode || line.outcome.isReverted

/-- Whether a line is covered, untouched or reverted under a way of counting. -/
def isCountedIn (mode : CountingMode) (line : Line) : Bool :=
  line.outcome.coveredIn mode || line.isOpenIn mode

theorem isCountedIn_standard (line : Line) : line.isCountedIn .standard = line.outcome.isCounted := by
  rw [isCountedIn, isOpenIn]
  cases line.outcome <;> rfl

/-- In logical coverage a line counts if it is active and logical, or a run reverted on it. -/
theorem isCountedIn_logical (line : Line) :
    line.isCountedIn .logical = (line.row.isActive && line.isLogical || line.outcome.isReverted) := by
  have hfares := line.fares
  rw [isCountedIn, isOpenIn]
  generalize line.outcome = outcome at hfares
  cases hfares with
  | uncounted idle => simp [idle, Outcome.coveredIn, Outcome.untouchedIn, Outcome.isReverted]
  | covered active _ => simp [active, Outcome.coveredIn, Outcome.untouchedIn, Outcome.isReverted]
  | reverted active _ => simp [Outcome.isReverted]
  | untouched active _ => simp [active, Outcome.coveredIn, Outcome.untouchedIn, Outcome.isReverted]

end Scan.Line

namespace Block.SumsUp

variable {b : Block} {lines : List Line}

theorem coveredIn_pos_iff (h : b.SumsUp lines) (mode : CountingMode) :
    0 < b.tallies.coveredIn mode ↔ ∃ line ∈ lines, line.outcome.coveredIn mode := by
  rw [h.coveredIn, List.countP_pos_iff]

theorem isReverted_iff (h : b.SumsUp lines) :
    b.isReverted ↔ ∃ line ∈ lines, line.outcome.isReverted := by
  rw [isReverted, bne_iff_ne, ← Nat.pos_iff_ne_zero, h.reverted, List.countP_pos_iff]

theorem hasOpenLines_iff (h : b.SumsUp lines) (mode : CountingMode) :
    (FunctionReport.ofBlock mode b).hasOpenLines ↔ ∃ line ∈ lines, line.isOpenIn mode := by
  have huntouched : b.tallies.untouchedIn mode ≠ 0 ↔
      ∃ line ∈ lines, line.outcome.untouchedIn mode := by
    rw [← Nat.pos_iff_ne_zero, h.untouchedIn, List.countP_pos_iff]
  simp only [FunctionReport.hasOpenLines, FunctionReport.ofBlock, Bool.or_eq_true, bne_iff_ne,
    huntouched, h.isReverted_iff, Line.isOpenIn, and_or_left, exists_or]

end Block.SumsUp

theorem Block.isFullyCoveredIn_iff (b : Block) (mode : CountingMode) :
    b.isFullyCoveredIn mode ↔
      0 < b.tallies.coveredIn mode ∧ (FunctionReport.ofBlock mode b).hasOpenLines = false := by
  simp [isFullyCoveredIn, FunctionReport.hasOpenLines, FunctionReport.ofBlock, isReverted,
    Nat.pos_iff_ne_zero, and_assoc]

/-! ## Functions and their lines -/

/-- A report on a file has this function, and it is made from these lines of the file. -/
inductive FunctionReport.IsOn (o : Options) (s : Segment) : FunctionReport → List Line → Prop
  | intro {block : Block} {lines : List Line} (mem : block ∈ fileBlocks o.allFunctions s.lines)
      (ownLines : OwnLines (parseRows s.lines) block lines) :
      IsOn o s (FunctionReport.ofBlock o.mode block) lines

section

variable {o : Options} {s : Segment} {f : FunctionReport} {lines : List Line}

theorem FileReport.mem_functions_iff :
    f ∈ (ofSegment o s).functions ↔ ∃ lines, f.IsOn o s lines := by
  constructor
  · intro hf
    obtain ⟨b, hb, rfl⟩ := List.mem_map.1 hf
    obtain ⟨lines, hlines⟩ := exists_ownLines (fileBlocks_eq_blocksOfRows .. ▸ hb)
    exact ⟨lines, .intro hb hlines⟩
  · rintro ⟨lines, ⟨mem, -⟩⟩
    exact List.mem_map_of_mem mem

/-- A function is listed for its open lines exactly if it has a line that counts: without one it has no
    open line, and is listed because it has no covered one either. -/
theorem FunctionReport.IsOn.listed_iff (h : f.IsOn o s lines) :
    (!f.isFullyCovered) = f.hasOpenLines ↔ ∃ line ∈ lines, line.isCountedIn o.mode := by
  obtain @⟨block, _, -, ownLines⟩ := h
  have hopen := ownLines.sumsUp.hasOpenLines_iff o.mode
  have hcovered := ownLines.sumsUp.coveredIn_pos_iff o.mode
  have hfull := block.isFullyCoveredIn_iff o.mode
  have hcounted : (∃ line ∈ lines, line.isCountedIn o.mode) ↔
      0 < block.tallies.coveredIn o.mode ∨ (FunctionReport.ofBlock o.mode block).hasOpenLines := by
    simp only [Line.isCountedIn, Bool.or_eq_true, and_or_left, exists_or, hcovered, hopen]
  rw [hcounted]
  show (!block.isFullyCoveredIn o.mode) = _ ↔ _
  cases hvalue : (FunctionReport.ofBlock o.mode block).hasOpenLines with
  | true => simp [hvalue, Bool.eq_false_iff, hfull]
  | false => simp [hvalue, hfull]

end

/-! ## The functions that are listed -/

theorem filter_eq_filter_iff {α : Type} {p q : α → Bool} {l : List α} :
    l.filter p = l.filter q ↔ ∀ a ∈ l, p a = q a := by
  constructor
  · intro h a ha
    have hmem : a ∈ l.filter p ↔ a ∈ l.filter q := by rw [h]
    rw [List.mem_filter, List.mem_filter] at hmem
    simpa only [ha, true_and, ← Bool.eq_iff_iff] using hmem
  · exact List.filter_congr

theorem FileReport.listsOpenLines_ofSegment_iff (o : Options) (s : Segment) :
    (ofSegment o s).ListsOpenLines ↔
      ∀ (f : FunctionReport) (lines : List Line), f.IsOn o s lines →
        ∃ line ∈ lines, line.isCountedIn o.mode := by
  rw [ListsOpenLines, incompleteFunctions, filter_eq_filter_iff]
  constructor
  · intro h f lines hon
    exact hon.listed_iff.1 (h f (mem_functions_iff.2 ⟨lines, hon⟩))
  · intro h f hf
    obtain ⟨lines, hon⟩ := mem_functions_iff.1 hf
    exact hon.listed_iff.2 (h f lines hon)

theorem FileReport.mem_incompleteFunctions_of_hasOpenLines {o : Options} {s : Segment}
    {f : FunctionReport} (hf : f ∈ (ofSegment o s).functions) (hopen : f.hasOpenLines) :
    f ∈ (ofSegment o s).incompleteFunctions := by
  obtain ⟨block, -, rfl⟩ := List.mem_map.1 hf
  refine List.mem_filter.2 ⟨hf, ?_⟩
  show (!block.isFullyCoveredIn o.mode) = true
  simp [Bool.eq_false_iff, block.isFullyCoveredIn_iff, hopen]

/-- **What a report lists.**  A report lists each function with untouched or reverted lines.  It lists no
    others exactly if each function of the file has a line that counts: one that is covered, untouched or
    reverted in the standard mode, and in logical coverage one that is active and logical or reverted
    (`Scan.Line.isCountedIn_standard`, `Scan.Line.isCountedIn_logical`). -/
theorem listsOpenLines_iff {o : Options} {trace : Text} {r : FileReport} (hr : r ∈ analyze o trace) :
    (∀ f ∈ r.functions, f.hasOpenLines → f ∈ r.incompleteFunctions) ∧
    ∃ s ∈ segments o trace, r = FileReport.ofSegment o s ∧
      (r.ListsOpenLines ↔
        ∀ (f : FunctionReport) (lines : List Line), f.IsOn o s lines →
          ∃ line ∈ lines, line.isCountedIn o.mode) := by
  obtain ⟨s, hs, rfl⟩ := List.mem_map.1 hr
  constructor
  · intro f hf
    exact FileReport.mem_incompleteFunctions_of_hasOpenLines hf
  · exact ⟨s, hs, rfl, FileReport.listsOpenLines_ofSegment_iff o s⟩

/-- A file of which one function is no more than its heading, and the other has a statement. -/
def headingOnly : Text :=
  "/p/logical/LogicalA.sol\n1|2|*|receive() external payable \x7b\x7d\n2|2|*|function pay() public \x7b\n3|2|*|total += 1;\n4|||\x7d\n".toList

/-- In the standard mode the heading counts, so that each function of the file has a line that does. -/
theorem listsOpenLines_headingOnly :
    ∃ r ∈ analyze {} headingOnly, r.ListsOpenLines ∧ ∃ s ∈ segments {} headingOnly,
      r = FileReport.ofSegment {} s ∧
        ∀ (f : FunctionReport) (lines : List Line), f.IsOn {} s lines →
          ∃ line ∈ lines, line.isCountedIn .standard := by
  obtain ⟨r, hr, hlists⟩ : ∃ r ∈ analyze {} headingOnly, r.ListsOpenLines := by decide +kernel
  obtain ⟨-, s, hs, heq, hiff⟩ := listsOpenLines_iff hr
  exact ⟨r, hr, hlists, s, hs, heq, hiff.1 hlists⟩

/-- In logical coverage it does not: the function ran, has no untouched or reverted line, and is listed. -/
theorem not_listsOpenLines_headingOnly :
    ∃ r ∈ analyze { mode := .logical } headingOnly, ¬ r.ListsOpenLines ∧
      ∃ f ∈ r.incompleteFunctions, f.name = "receive".toList ∧ f.touched ∧ f.hasOpenLines = false := by
  decide +kernel

end FuzzCoverage

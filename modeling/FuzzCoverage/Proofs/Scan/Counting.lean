import FuzzCoverage.Proofs.Scan.Attribution
import FuzzCoverage.Proofs.Scan.Effect

/-! # What the tallies of a block count

Each tally of a block is the number of its lines that fared in one way (`Block.SumsUp.coveredIn` and
its like), and each list of snippets holds the sources of such lines.  So questions about tallies are
questions about single lines.

`OwnLines` says which lines are those of a block that a file returns.  What logical coverage counts of
them is every line that is active and logical, once, and besides these the lines that a run reverted on
and that are none (`logical_le_iff`). -/

namespace FuzzCoverage

open Scan Solidity Trace

/-! ## Outcomes -/

namespace Outcome

/-- Whether a row that fared so is one of the covered lines under a way of counting. -/
def coveredIn : CountingMode → Outcome → Bool
  | .standard, .covered _ => true
  | .logical, .covered logical => logical
  | .logical, .reverted _ => true
  | _, _ => false

/-- Whether a row that fared so is one of the untouched lines under a way of counting. -/
def untouchedIn : CountingMode → Outcome → Bool
  | .standard, .untouched _ _ => true
  | .logical, .untouched logical _ => logical
  | _, _ => false

def isReverted : Outcome → Bool
  | .reverted _ => true
  | _ => false

/-- Whether a row that fared so counts for anything. -/
def isCounted : Outcome → Bool
  | .uncounted => false
  | _ => true

theorem untouchedIn_eq_false {mode : CountingMode} {outcome : Outcome} (h : outcome.coveredIn mode) :
    outcome.untouchedIn mode = false := by
  cases mode with
  | standard => cases outcome <;> simp_all [coveredIn, untouchedIn]
  | logical => cases outcome <;> simp_all [coveredIn, untouchedIn]

end Outcome

namespace Tallies

theorem coveredIn_add (mode : CountingMode) (t : Tallies) (outcome : Outcome) :
    (t.add outcome).coveredIn mode = t.coveredIn mode + (outcome.coveredIn mode).toNat := by
  cases mode with
  | standard => cases outcome <;> rfl
  | logical => cases outcome <;> rfl

theorem untouchedIn_add (mode : CountingMode) (t : Tallies) (outcome : Outcome) :
    (t.add outcome).untouchedIn mode = t.untouchedIn mode + (outcome.untouchedIn mode).toNat := by
  cases mode with
  | standard => cases outcome <;> rfl
  | logical => cases outcome <;> rfl

theorem reverted_add (t : Tallies) (outcome : Outcome) :
    (t.add outcome).reverted = t.reverted + outcome.isReverted.toNat := by
  cases outcome <;> rfl

theorem counted_add (t : Tallies) (outcome : Outcome) :
    (t.add outcome).counted = t.counted + outcome.isCounted.toNat := by
  cases outcome <;>
    simp only [Tallies.add, counted, Outcome.isCounted, Bool.toNat_true, Bool.toNat_false] <;> omega

theorem countP_cons_toNat {α : Type} (counts : α → Bool) (a : α) (rest : List α) :
    (a :: rest).countP counts = rest.countP counts + (counts a).toNat := by
  rw [List.countP_cons]
  cases counts a with
  | false => rfl
  | true => rfl

variable {tally : Tallies → Nat} {counts : Outcome → Bool}

/-- A tally that a row adds to or does not is the number of the rows that do. -/
theorem foldl_add (hadd : ∀ t outcome, tally (t.add outcome) = tally t + (counts outcome).toNat)
    (t : Tallies) (outcomes : List Outcome) :
    tally (outcomes.foldl Tallies.add t) = tally t + outcomes.countP counts := by
  induction outcomes generalizing t with
  | nil => rfl
  | cons outcome outcomes ih =>
    rw [List.foldl_cons, ih, hadd, countP_cons_toNat]
    omega

end Tallies

structure Tallies.Bounded (t : Tallies) : Prop where
  logicalCovered : t.logicalCovered ≤ t.covered + t.reverted
  logicalUntouched : t.logicalUntouched ≤ t.untouched

theorem Tallies.Bounded.add {t : Tallies} (h : t.Bounded) (outcome : Outcome) : (t.add outcome).Bounded := by
  obtain ⟨hcovered, huntouched⟩ := h
  cases outcome with
  | uncounted => exact ⟨hcovered, huntouched⟩
  | covered logical =>
    have hone : logical.toNat ≤ 1 := Bool.toNat_le logical
    constructor <;> simp only [Tallies.add] <;> omega
  | reverted snippet => constructor <;> simp only [Tallies.add] <;> omega
  | untouched logical snippet =>
    have hone : logical.toNat ≤ 1 := Bool.toNat_le logical
    constructor <;> simp only [Tallies.add] <;> omega

theorem Tallies.bounded_foldl {t : Tallies} (h : t.Bounded) (outcomes : List Outcome) :
    (outcomes.foldl Tallies.add t).Bounded := by
  induction outcomes generalizing t with
  | nil => exact h
  | cons outcome outcomes ih => exact ih (h.add outcome)

theorem Tallies.Bounded.eq_empty {t : Tallies} (h : t.Bounded) (hnone : t.counted = 0) : t = {} := by
  obtain ⟨hlogicalCovered, hlogicalUntouched⟩ := h
  cases t with
  | mk covered reverted untouched logicalCovered logicalUntouched =>
    simp only [counted] at hnone
    simp only [Tallies.mk.injEq] at hlogicalCovered hlogicalUntouched ⊢
    omega

/-! ## Lines -/

theorem Solidity.mayBeUntouched_of_isLogical {code : Text} (h : isLogical code) : mayBeUntouched code := by
  rw [isLogical, Bool.and_eq_true] at h
  exact h.1

theorem Solidity.not_isLoneBrace_of_isLogical {code : Text} (h : isLogical code) :
    isLoneBrace code = false := by
  have hmay := mayBeUntouched_of_isLogical h
  refine Bool.eq_false_iff.2 fun hlone => ?_
  -- a lone brace is one of the lines of punctuation
  have hbrace : code.trim = ['\x7d'] := of_decide_eq_true hlone
  have hpunctuation : ['\x7d'] ∈ punctuationLines := by decide
  simp [mayBeUntouched, hbrace, hpunctuation] at hmay

namespace Scan

def Line.isLogical (line : Line) : Bool := line.code.any Solidity.isLogical

/-- How a line can fare, by its marker.  A line that counts for nothing is not both active and
    logical. -/
inductive Line.Fares (line : Line) : Outcome → Prop
  | uncounted (idle : (line.row.isActive && line.isLogical) = false) : Fares line .uncounted
  | covered (active : line.row.isActive) (marker : line.row.marker = .covered) :
      Fares line (.covered line.isLogical)
  | reverted (active : line.row.isActive) (marker : line.row.marker = .reverted) :
      Fares line (.reverted line.row.source)
  | untouched (active : line.row.isActive) (marker : line.row.marker = .unmarked) :
      Fares line (.untouched line.isLogical line.row.source)

theorem Line.fares (line : Line) : line.Fares line.outcome := by
  cases hcode : line.code with
  | none =>
    have hlogical : line.isLogical = false := by simp [isLogical, hcode]
    simp only [outcome, hcode, Option.map_none, Option.getD_none]
    exact .uncounted (by rw [hlogical, Bool.and_false])
  | some code =>
    have hlogical : line.isLogical = Solidity.isLogical code := by simp [isLogical, hcode]
    simp only [outcome, hcode, Option.map_some, Option.getD_some, Outcome.of, ← hlogical]
    cases hactive : line.row.isActive with
    | false => exact .uncounted (by rw [hactive, Bool.false_and])
    | true =>
      cases hlone : isLoneBrace code with
      | true =>
        refine .uncounted (Bool.eq_false_iff.2 fun hboth => ?_)
        rw [hactive, Bool.true_and, hlogical] at hboth
        rw [not_isLoneBrace_of_isLogical hboth] at hlone
        cases hlone
      | false =>
        cases hmarker : line.row.marker with
        | covered => exact .covered hactive hmarker
        | reverted => exact .reverted hactive hmarker
        | unmarked =>
          simp only [Bool.not_true, Bool.or_self, Bool.false_eq_true, if_false]
          split
          · exact .untouched hactive hmarker
          · rename_i hmay
            refine .uncounted (Bool.eq_false_iff.2 fun hboth => hmay ?_)
            rw [hactive, Bool.true_and, hlogical] at hboth
            exact mayBeUntouched_of_isLogical hboth

theorem Line.revertedSnippets_outcome (line : Line) :
    line.outcome.revertedSnippets = if line.outcome.isReverted then [line.row.source] else [] := by
  have hfares := line.fares
  generalize line.outcome = outcome at hfares
  cases hfares <;> rfl

theorem Line.untouchedSnippets_outcome (line : Line) :
    line.outcome.untouchedSnippets =
      if line.outcome.untouchedIn .standard then [line.row.source] else [] := by
  have hfares := line.fares
  generalize line.outcome = outcome at hfares
  cases hfares <;> rfl

/-- In logical coverage a line untouched in the standard mode counts if it is logical. -/
theorem Line.untouchedIn_logical (line : Line) :
    line.outcome.untouchedIn .logical = (line.outcome.untouchedIn .standard && line.isLogical) := by
  have hfares := line.fares
  generalize line.outcome = outcome at hfares
  cases hfares <;> simp [Outcome.untouchedIn]

theorem flatMap_snippets {snippets : Line → List Text} {counts : Line → Bool}
    (h : ∀ line, snippets line = if counts line then [line.row.source] else []) (lines : List Line) :
    lines.flatMap snippets = (lines.filter counts).map (·.row.source) := by
  induction lines with
  | nil => rfl
  | cons line lines ih =>
    rw [List.flatMap_cons, ih, h, List.filter_cons]
    cases counts line with
    | false => rfl
    | true => rfl

end Scan

/-! ## Blocks -/

namespace Block.SumsUp

variable {b : Block} {lines : List Line}

theorem tally_eq (tally : Tallies → Nat) (counts : Outcome → Bool) (h : b.SumsUp lines)
    (hadd : ∀ t outcome, tally (t.add outcome) = tally t + (counts outcome).toNat)
    (hempty : tally {} = 0) : tally b.tallies = lines.countP (counts ·.outcome) := by
  rw [h.tallies, Tallies.foldl_add hadd, hempty, Nat.zero_add, List.countP_map]
  rfl

theorem coveredIn (h : b.SumsUp lines) (mode : CountingMode) :
    b.tallies.coveredIn mode = lines.countP (·.outcome.coveredIn mode) := by
  apply tally_eq (·.coveredIn mode) (·.coveredIn mode) h (Tallies.coveredIn_add mode)
  cases mode <;> rfl

theorem untouchedIn (h : b.SumsUp lines) (mode : CountingMode) :
    b.tallies.untouchedIn mode = lines.countP (·.outcome.untouchedIn mode) := by
  apply tally_eq (·.untouchedIn mode) (·.untouchedIn mode) h (Tallies.untouchedIn_add mode)
  cases mode <;> rfl

theorem reverted (h : b.SumsUp lines) : b.tallies.reverted = lines.countP (·.outcome.isReverted) :=
  tally_eq Tallies.reverted Outcome.isReverted h Tallies.reverted_add rfl

theorem counted (h : b.SumsUp lines) : b.tallies.counted = lines.countP (·.outcome.isCounted) :=
  tally_eq Tallies.counted Outcome.isCounted h Tallies.counted_add rfl

theorem revertedSnippets_eq (h : b.SumsUp lines) :
    b.revertedSnippets = (lines.filter (·.outcome.isReverted)).map (·.row.source) := by
  rw [h.revertedSnippets]
  exact flatMap_snippets Line.revertedSnippets_outcome lines

theorem untouchedSnippets_eq (h : b.SumsUp lines) :
    b.untouchedSnippets = (lines.filter (·.outcome.untouchedIn .standard)).map (·.row.source) := by
  rw [h.untouchedSnippets]
  exact flatMap_snippets Line.untouchedSnippets_outcome lines

theorem length_revertedSnippets (h : b.SumsUp lines) : b.revertedSnippets.length = b.tallies.reverted := by
  rw [h.revertedSnippets_eq, h.reverted, List.length_map, List.countP_eq_length_filter]

theorem length_untouchedSnippets (h : b.SumsUp lines) :
    b.untouchedSnippets.length = b.tallies.untouched := by
  have huntouched := h.untouchedIn .standard
  rw [h.untouchedSnippets_eq, List.length_map, ← List.countP_eq_length_filter, ← huntouched]
  rfl

theorem bounded (h : b.SumsUp lines) : b.tallies.Bounded := by
  rw [h.tallies]
  exact Tallies.bounded_foldl ⟨by decide, by decide⟩ _

/-- A block of which no line counts in the standard mode holds nothing of the logical mode either, and
    no snippets. -/
theorem eq_empty_of_counted (h : b.SumsUp lines) (hnone : b.tallies.counted = 0) :
    b.tallies = {} ∧ b.revertedSnippets = [] ∧ b.untouchedSnippets = [] := by
  have hreverted := h.length_revertedSnippets
  have huntouched := h.length_untouchedSnippets
  rw [h.bounded.eq_empty hnone] at hreverted huntouched ⊢
  exact ⟨rfl, List.eq_nil_of_length_eq_zero hreverted, List.eq_nil_of_length_eq_zero huntouched⟩

end Block.SumsUp

/-! ## The blocks of a file and their lines -/

namespace Scan

theorem State.exists_residue_sumsUp (rows : List Row) :
    ∃ lines, (({} : State).run rows).residue.complete.SumsUp lines := by
  obtain ⟨parts, hparts⟩ := exists_divides (linesOf false rows)
  refine ⟨parts.flatMap Part.residue, ?_⟩
  rw [(State.run_of_divides hparts).2]
  exact Block.sumsUp_readAll ⟨rfl, rfl, rfl, rfl⟩ _

/-- The lines of a block that a file of these rows returns: those of a definition, or of the parts that
    lie outside of every definition. -/
inductive OwnLines (rows : List Row) : Block → List Line → Prop
  | definition {parts : List Part} {part : Part} {block : Block}
      (divides : Divides (linesOf false (fillAssemblyHeaders rows)) parts) (mem : part ∈ parts)
      (isBlock : part.block? = some block) : OwnLines rows block part.lines
  | outside {parts : List Part} {block : Block}
      (divides : Divides (linesOf false (fillAssemblyHeaders rows)) parts)
      (isResidue : (({} : State).run (fillAssemblyHeaders rows)).residue? = some block) :
      OwnLines rows block (parts.flatMap Part.residue)

variable {rows : List Row} {block : Block} {lines : List Line}

theorem withoutViewPure_sublist (allFunctions : Bool) (blocks : List Block) :
    (withoutViewPure allFunctions blocks).Sublist blocks := by
  rw [withoutViewPure]
  split
  · exact List.Sublist.refl _
  · exact List.filter_sublist

theorem exists_ownLines {allFunctions : Bool} (h : block ∈ blocksOfRows allFunctions rows) :
    ∃ lines, OwnLines rows block lines := by
  obtain ⟨parts, hparts⟩ := exists_divides (linesOf false (fillAssemblyHeaders rows))
  rcases List.mem_append.1 h with hfunction | houtside
  · have hmem := (withoutViewPure_sublist allFunctions _).subset hfunction
    rw [(State.run_of_divides hparts).1] at hmem
    obtain ⟨part, hpart, hblock⟩ := List.mem_filterMap.1 hmem
    exact ⟨part.lines, .definition hparts hpart hblock⟩
  · exact ⟨parts.flatMap Part.residue, .outside hparts (Option.mem_toList.1 houtside)⟩

theorem OwnLines.sumsUp (h : OwnLines rows block lines) : block.SumsUp lines := by
  cases h with
  | definition divides mem isBlock => exact Part.block?_sumsUp isBlock
  | outside divides isResidue => exact State.residue?_sumsUp (State.run_of_divides divides).2 isResidue

theorem Part.residue_sublist (part : Part) : part.residue.Sublist part.lines := by
  cases part with
  | outside line =>
    simp only [Part.residue, Part.lines]
    split
    · exact List.Sublist.refl _
    · exact List.nil_sublist _
  | dropped lines => exact List.nil_sublist _
  | definition unit heading brace body => exact List.nil_sublist _

theorem flatMap_residue_sublist (parts : List Part) :
    (parts.flatMap Part.residue).Sublist (parts.flatMap Part.lines) := by
  induction parts with
  | nil => exact List.Sublist.refl _
  | cons part parts ih => exact part.residue_sublist.append ih

/-- A block has its lines in the order of the file, and none of them twice. -/
theorem OwnLines.sublist (h : OwnLines rows block lines) :
    lines.Sublist (linesOf false (fillAssemblyHeaders rows)) := by
  cases h with
  | definition divides mem isBlock =>
    rw [← divides.flatMap_lines]
    exact List.sublist_flatten_of_mem (List.mem_map_of_mem mem)
  | outside divides isResidue =>
    rw [← divides.flatMap_lines]
    exact flatMap_residue_sublist _

/-! ## Logical lines -/

/-- Whether logical coverage is about the line: it has a counter, and its code does something. -/
def Line.isLogicalRow (line : Line) : Bool := line.row.isActive && line.isLogical

/-- Whether the line counts in logical coverage for no other reason than that a run reverted on it. -/
def Line.isLogicalByRevert (line : Line) : Bool := line.outcome.isReverted && !line.isLogical

theorem Line.logical_eq (line : Line) :
    (line.outcome.coveredIn .logical).toNat + (line.outcome.untouchedIn .logical).toNat =
      line.isLogicalRow.toNat + line.isLogicalByRevert.toNat := by
  have hfares := line.fares
  simp only [isLogicalRow, isLogicalByRevert]
  generalize line.outcome = outcome at hfares
  cases hfares with
  | uncounted idle => simp [idle, Outcome.coveredIn, Outcome.untouchedIn, Outcome.isReverted]
  | covered active => simp [active, Outcome.coveredIn, Outcome.untouchedIn, Outcome.isReverted]
  | reverted active =>
    cases hlogical : line.isLogical <;>
      simp [active, Outcome.coveredIn, Outcome.untouchedIn, Outcome.isReverted]
  | untouched active => simp [active, Outcome.coveredIn, Outcome.untouchedIn, Outcome.isReverted]

theorem countP_logical (lines : List Line) :
    lines.countP (·.outcome.coveredIn .logical) + lines.countP (·.outcome.untouchedIn .logical) =
      lines.countP Line.isLogicalRow + lines.countP Line.isLogicalByRevert := by
  induction lines with
  | nil => rfl
  | cons line lines ih =>
    have hline := line.logical_eq
    simp only [Tallies.countP_cons_toNat]
    omega

theorem OwnLines.logical_eq (h : OwnLines rows block lines) :
    block.tallies.logicalCovered + block.tallies.logicalUntouched =
      lines.countP Line.isLogicalRow + lines.countP Line.isLogicalByRevert := by
  rw [← countP_logical, ← h.sumsUp.coveredIn, ← h.sumsUp.untouchedIn]
  rfl

/-- **What logical coverage counts of a block.**  Each of its logical rows counts once, whatever its
    marker, and besides these it is the lines that a run reverted on.  So the logical tallies keep to
    logical rows exactly when a run reverted on no other line of the block. -/
theorem logical_le_iff {allFunctions : Bool} (h : block ∈ blocksOfRows allFunctions rows) :
    (∃ lines, OwnLines rows block lines) ∧
      ∀ lines, OwnLines rows block lines →
        block.tallies.logicalCovered + block.tallies.logicalUntouched =
            lines.countP Line.isLogicalRow + lines.countP Line.isLogicalByRevert ∧
          (block.tallies.logicalCovered + block.tallies.logicalUntouched ≤
              lines.countP Line.isLogicalRow ↔
            ∀ line ∈ lines, line.isLogicalByRevert = false) := by
  refine ⟨exists_ownLines h, fun lines hlines => ⟨hlines.logical_eq, ?_⟩⟩
  have hnone : lines.countP Line.isLogicalByRevert = 0 ↔
      ∀ line ∈ lines, line.isLogicalByRevert = false := by
    simp [List.countP_eq_zero]
  rw [hlines.logical_eq, ← hnone]
  omega

/-- A function with a statement that reverted, one that no run reached, and a declaration. -/
def revertedStatement : List Row :=
  [⟨none, .hits 2, .covered, "function pay() public \x7b".toList⟩,
    ⟨none, .hits 2, .reverted, "total += 1;".toList⟩,
    ⟨none, .hits 1, .covered, "uint256 fee;".toList⟩,
    ⟨none, .hits 0, .unmarked, "emit Paid(fee);".toList⟩,
    ⟨none, .structural, .unmarked, "\x7d".toList⟩]

theorem logical_le_revertedStatement :
    ∃ block lines, blocksOfRows true revertedStatement = [block] ∧
      OwnLines revertedStatement block lines ∧
      block.tallies.logicalCovered + block.tallies.logicalUntouched ≤ lines.countP Line.isLogicalRow := by
  obtain ⟨block, hblock⟩ := List.length_eq_one_iff.1
    (show (blocksOfRows true revertedStatement).length = 1 by decide)
  have hmem : block ∈ blocksOfRows true revertedStatement := by simp [hblock]
  have hnone : ∀ line ∈ linesOf false (fillAssemblyHeaders revertedStatement),
      line.isLogicalByRevert = false := by decide
  obtain ⟨⟨lines, hlines⟩, hcounts⟩ := logical_le_iff hmem
  refine ⟨block, lines, hblock, hlines, (hcounts lines hlines).2.2 ?_⟩
  exact fun line hline => hnone line (hlines.sublist.subset hline)

/-- A function with its heading marked as reverted. -/
def revertedHeading : List Row :=
  [⟨none, .hits 1, .reverted, "function f() public \x7b".toList⟩,
    ⟨none, .hits 1, .covered, "x = 1;".toList⟩, ⟨none, .structural, .unmarked, "\x7d".toList⟩]

/-- The heading is no logical line, and counts as one that is logically covered. -/
theorem logical_lt_revertedHeading :
    ∃ block lines, blocksOfRows true revertedHeading = [block] ∧
      OwnLines revertedHeading block lines ∧
      lines.countP Line.isLogicalRow < block.tallies.logicalCovered + block.tallies.logicalUntouched := by
  obtain ⟨block, hblock⟩ := List.length_eq_one_iff.1
    (show (blocksOfRows true revertedHeading).length = 1 by decide)
  have hmem : block ∈ blocksOfRows true revertedHeading := by simp [hblock]
  have htallies : (blocksOfRows true revertedHeading).map (fun block =>
      block.tallies.logicalCovered + block.tallies.logicalUntouched) = [2] := by decide
  have hall : (linesOf false (fillAssemblyHeaders revertedHeading)).countP Line.isLogicalRow = 1 := by
    decide
  obtain ⟨lines, hlines⟩ := exists_ownLines hmem
  refine ⟨block, lines, hblock, hlines, ?_⟩
  have hfew : lines.countP Line.isLogicalRow ≤ 1 := hall ▸ hlines.sublist.countP_le
  rw [hblock] at htallies
  simp only [List.map_cons, List.map_nil, List.cons.injEq, and_true] at htallies
  omega

end Scan

end FuzzCoverage

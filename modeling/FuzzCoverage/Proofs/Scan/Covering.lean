import FuzzCoverage.Proofs.Scan.SameCode
import FuzzCoverage.Proofs.Scan.Counting
import FuzzCoverage.Proofs.Trace.Columns

/-! # Files of which more rows are covered

A file before and after some of its unmarked rows have been covered is scanned into the same blocks,
and none of them loses by it: `Tallies.Improves` is what a block may gain, `keeps_improves` says that
every row keeps it, and `improves_functionBlocks` and `improves_residue` that a file does.

A header of an assembly block takes the outcome of the row after it, so it is covered as soon as that
row is, and whatever its own column says does not matter (`sameOrCovered_withOutcomeOf`). -/

namespace FuzzCoverage

open Solidity Trace

/-! ## Tallies -/

namespace Tallies

/-- The first tallies may become the second ones when more rows are covered: covered rows are gained,
    untouched ones lost, and no row that counted is lost.  The logical lines among them stay the
    same ones. -/
structure Improves (t t' : Tallies) : Prop where
  covered : t.covered ≤ t'.covered
  untouched : t'.untouched ≤ t.untouched
  reverted : t'.reverted = t.reverted
  counted : t.counted ≤ t'.counted
  logicalUntouched : t'.logicalUntouched ≤ t.logicalUntouched
  logical : t'.logicalCovered + t'.logicalUntouched = t.logicalCovered + t.logicalUntouched

variable {t t' : Tallies} {mode : CountingMode}

theorem Improves.refl (t : Tallies) : t.Improves t :=
  ⟨Nat.le_refl _, Nat.le_refl _, rfl, Nat.le_refl _, Nat.le_refl _, rfl⟩

theorem Improves.coveredIn (h : t.Improves t') : t.coveredIn mode ≤ t'.coveredIn mode := by
  cases mode with
  | standard => exact h.covered
  | logical =>
    have huntouched := h.logicalUntouched
    have hlogical := h.logical
    show t.logicalCovered ≤ t'.logicalCovered
    omega

theorem Improves.untouchedIn (h : t.Improves t') : t'.untouchedIn mode ≤ t.untouchedIn mode := by
  cases mode with
  | standard => exact h.untouched
  | logical => exact h.logicalUntouched

theorem Improves.add_of {outcome outcome' : Outcome} (h : t.Improves t')
    (hadd : (({} : Tallies).add outcome).Improves (({} : Tallies).add outcome')) :
    (t.add outcome).Improves (t'.add outcome') := by
  obtain ⟨hcovered, huntouched, hreverted, hcounted, hlogicalUntouched, hlogical⟩ := h
  obtain ⟨hcovered', huntouched', hreverted', hcounted', hlogicalUntouched', hlogical'⟩ := hadd
  rw [Tallies.add_eq t, Tallies.add_eq t']
  simp only [Tallies.counted] at hcounted hcounted'
  constructor <;> simp only [Tallies.counted] <;> omega

/-- A row that was untouched, or counted for nothing and was no logical line, is covered now. -/
theorem Improves.add_covered {outcome : Outcome} {logical : Bool} (h : t.Improves t')
    (hbefore : (∃ snippet, outcome = .untouched logical snippet) ∨
      outcome = .uncounted ∧ logical = false) :
    (t.add outcome).Improves (t'.add (.covered logical)) := by
  apply h.add_of
  rcases hbefore with ⟨snippet, rfl⟩ | ⟨rfl, rfl⟩
  · constructor <;> simp [Tallies.add, Tallies.counted]
  · constructor <;> simp [Tallies.add, Tallies.counted]

end Tallies

/-- A row that is covered now and has the same code counts for more than before. -/
theorem Tallies.Improves.add {t t' : Tallies} {row row' : Row} (h : t.Improves t')
    (hrow : row.SameOrCovered row') (code : Text) :
    (t.add (Outcome.of row code)).Improves (t'.add (Outcome.of row' code)) := by
  cases hrow with
  | same => exact h.add_of (.refl _)
  | covered unmarked counted =>
    have hactive : { row with marker := .covered }.isActive = row.isActive := rfl
    by_cases hcounts : !row.isActive || isLoneBrace code
    · simp only [Outcome.of, hactive, hcounts, if_true]
      exact h
    · simp only [Outcome.of, hactive, hcounts, unmarked]
      apply h.add_covered
      cases huntouched : mayBeUntouched code with
      | true => exact Or.inl ⟨row.source, rfl⟩
      | false =>
        -- the filter for logical lines is the stricter one
        refine Or.inr ⟨rfl, Bool.eq_false_iff.2 fun hlogical => ?_⟩
        rw [mayBeUntouched_of_isLogical hlogical] at huntouched
        cases huntouched

/-! ## Blocks -/

/-- Blocks that hold the same rows, of which more are covered in the second. -/
structure Block.Improves (b b' : Block) : Prop where
  tallies : b.tallies.Improves b'.tallies
  viewPure : b.viewPure = b'.viewPure

theorem Block.Improves.isFullyCoveredIn {b b' : Block} {mode : CountingMode} (h : b.Improves b')
    (hfull : b.isFullyCoveredIn mode) : b'.isFullyCoveredIn mode := by
  have hcovered : b.tallies.coveredIn mode ≤ b'.tallies.coveredIn mode := h.tallies.coveredIn
  have huntouched : b'.tallies.untouchedIn mode ≤ b.tallies.untouchedIn mode := h.tallies.untouchedIn
  have hreverted := h.tallies.reverted
  simp only [Block.isFullyCoveredIn, Bool.and_eq_true, bne_iff_ne, beq_iff_eq] at hfull ⊢
  omega

/-- What counted for nothing can come to count only by being covered, so that all of it is covered
    then; but none of it is a logical line. -/
theorem Block.Improves.isFullyCoveredIn_of_counted {b b' : Block} (h : b.Improves b')
    (hbounded : b.tallies.Bounded) (hbefore : b.tallies.counted = 0)
    (hafter : b'.tallies.counted ≠ 0) :
    b'.isFullyCoveredIn .standard ∧ b'.isFullyCoveredIn .logical = false := by
  have huntouched := h.tallies.untouched
  have hreverted := h.tallies.reverted
  have hlogical := h.tallies.logical
  have hboundedCovered := hbounded.logicalCovered
  have hboundedUntouched := hbounded.logicalUntouched
  simp only [Tallies.counted] at hbefore hafter
  -- no logical line was among them before, and logical lines stay the same ones
  have hnone : b'.tallies.logicalCovered = 0 := by omega
  constructor
  · simp only [Block.isFullyCoveredIn, Tallies.coveredIn, Tallies.untouchedIn, Bool.and_eq_true,
      bne_iff_ne, beq_iff_eq]
    omega
  · simp [Block.isFullyCoveredIn, Tallies.coveredIn, hnone]

/-! ## Lines -/

namespace Scan

/-- The lines of a row before and after it may have been covered. -/
structure Line.SameOrCovered (line line' : Line) : Prop where
  code : line.code = line'.code
  row : line.row.SameOrCovered line'.row

theorem Line.SameOrCovered.isResidue {line line' : Line} (h : line.SameOrCovered line') :
    line.isResidue = line'.isResidue := by
  have hlegacy : line.row.isUnmarkedLegacy = line'.row.isUnmarkedLegacy := by
    have hrow := h.row
    generalize line.row = row, line'.row = row' at hrow
    cases hrow with
    | same => rfl
    | covered unmarked counted => simp [Row.isUnmarkedLegacy, counted]
  rw [Line.isResidue, Line.isResidue, h.code, hlegacy]

theorem improves_read {b b' : Block} {line line' : Line} (hb : b.Improves b')
    (h : line.SameOrCovered line') : (b.read line).Improves (b'.read line') := by
  refine ⟨?_, hb.viewPure⟩
  show (b.tallies.add line.outcome).Improves (b'.tallies.add line'.outcome)
  cases hcode : line.code with
  | none =>
    have hcode' : line'.code = none := h.code ▸ hcode
    simp only [Line.outcome, hcode, hcode']
    exact hb.tallies
  | some code =>
    have hcode' : line'.code = some code := h.code ▸ hcode
    simp only [Line.outcome, hcode, hcode']
    exact hb.tallies.add h.row code

/-- **Every line keeps the improvement of its block.** -/
theorem keeps_improves : Keeps Line.SameOrCovered Block.Improves Block.Improves where
  code h := h.code
  opened unit := ⟨.refl _, rfl⟩
  marked := by
    intro b b' line line' hb h
    refine ⟨hb.tallies, ?_⟩
    simp [Block.mark, hb.viewPure, Line.saysViewPure, h.code]
  read hb h := improves_read hb h
  completed hb := ⟨hb.tallies, hb.viewPure⟩
  residue := by
    intro b b' line line' hb h
    rw [h.isResidue]
    split
    · exact improves_read hb h
    · exact hb

/-! ## Files -/

theorem sameOrCovered_withOutcomeOf {row row' next next' : Row} (h : row.SameOrCovered row')
    (hnext : next.SameOrCovered next') : (row.withOutcomeOf next).SameOrCovered (row'.withOutcomeOf next') := by
  -- of the header itself only its source is left, which is the same before and after
  have hown : row'.withOutcomeOf next' = row.withOutcomeOf next' := by cases h <;> rfl
  rw [hown]
  cases hnext with
  | same => exact .same _
  | covered unmarked counted => exact .covered unmarked counted

theorem forall₂_sameOrCovered {rows rows' : List Row} (h : List.Forall₂ Row.SameOrCovered rows rows')
    (inComment : Bool) :
    List.Forall₂ Line.SameOrCovered (linesOf inComment (fillAssemblyHeaders rows))
      (linesOf inComment (fillAssemblyHeaders rows')) := by
  refine (forall₂_linesOf ?_ ?_ sameOrCovered_withOutcomeOf h inComment).imp
    fun _ _ hline => ⟨hline.1, hline.2⟩
  · intro row row' hrow
    cases hrow <;> rfl
  · intro row row' hrow
    cases hrow <;> rfl

theorem forall₂_parseRows {rows rows' : List Text} (h : List.Forall₂ SameOrStarred rows rows') :
    List.Forall₂ Row.SameOrCovered (parseRows rows) (parseRows rows') :=
  List.rel_filterMap (fun _ _ hrow => hrow.parse?) h

/-- The blocks of a file without the one for what lies outside. -/
def functionBlocks (allFunctions : Bool) (rows : List Text) : List Block :=
  withoutViewPure allFunctions (afterLines rows).blocks

theorem fileBlocks_eq (allFunctions : Bool) (rows : List Text) :
    fileBlocks allFunctions rows = functionBlocks allFunctions rows ++ (afterLines rows).residue?.toList :=
  rfl

theorem improves_withoutViewPure (allFunctions : Bool) {blocks blocks' : List Block}
    (h : List.Forall₂ Block.Improves blocks blocks') :
    List.Forall₂ Block.Improves (withoutViewPure allFunctions blocks)
      (withoutViewPure allFunctions blocks') := by
  have hall : blocks.all (·.viewPure) = blocks'.all (·.viewPure) := by
    induction h with
    | nil => rfl
    | cons hb _ ih => rw [List.all_cons, List.all_cons, hb.viewPure, ih]
  rw [withoutViewPure, withoutViewPure, hall]
  split
  · exact h
  · exact List.rel_filter (fun b b' hb => by simp [hb.viewPure]) h

variable {rows rows' : List Text}

theorem alike_afterLines (h : List.Forall₂ SameOrStarred rows rows') :
    (afterLines rows).Alike Block.Improves Block.Improves (afterLines rows') := by
  have hstart : ({} : State).Alike Block.Improves Block.Improves {} :=
    ⟨.outside, ⟨.refl _, rfl⟩, .nil⟩
  have hrun := hstart.runLines keeps_improves (forall₂_sameOrCovered (forall₂_parseRows h) false)
  rw [afterLines, afterLines, State.run_eq_runLines, State.run_eq_runLines]
  exact ⟨hrun.phase, hrun.residue, hrun.closed⟩

theorem improves_functionBlocks (allFunctions : Bool) (h : List.Forall₂ SameOrStarred rows rows') :
    List.Forall₂ Block.Improves (functionBlocks allFunctions rows) (functionBlocks allFunctions rows') :=
  improves_withoutViewPure allFunctions ((alike_afterLines h).blocks keeps_improves)

theorem improves_residue (h : List.Forall₂ SameOrStarred rows rows') :
    (afterLines rows).residue.Improves (afterLines rows').residue :=
  (alike_afterLines h).residue

theorem bounded_residue (rows : List Text) : (afterLines rows).residue.tallies.Bounded := by
  obtain ⟨lines, hlines⟩ := State.exists_residue_sumsUp (fillAssemblyHeaders (parseRows rows))
  exact hlines.bounded

/-- The block for what lies outside of every function is returned for the second file and not for the
    first. -/
def OutsideAppears (rows rows' : List Text) : Prop :=
  (afterLines rows).residue? = none ∧ (afterLines rows').residue? ≠ none

instance (rows rows' : List Text) : Decidable (OutsideAppears rows rows') :=
  inferInstanceAs (Decidable (_ ∧ _))

/-- The residue is not lost, and where it does not appear either, there is a block for every block. -/
theorem improves_fileBlocks (allFunctions : Bool) (h : List.Forall₂ SameOrStarred rows rows')
    (houtside : ¬ OutsideAppears rows rows') :
    List.Forall₂ Block.Improves (fileBlocks allFunctions rows) (fileBlocks allFunctions rows') := by
  have hresidue := improves_residue h
  have hcounted := hresidue.tallies.counted
  rw [fileBlocks_eq, fileBlocks_eq]
  refine List.rel_append (improves_functionBlocks allFunctions h) ?_
  by_cases hafter : (afterLines rows').residue.tallies.counted = 0
  · have hbefore : (afterLines rows).residue.tallies.counted = 0 := by omega
    rw [State.residue?, if_pos hbefore, State.residue?, if_pos hafter]
    exact .nil
  · have hbefore : (afterLines rows).residue.tallies.counted ≠ 0 := by
      intro hnone
      exact houtside ⟨by simp [State.residue?, hnone], by simp [State.residue?, hafter]⟩
    rw [State.residue?, if_neg hbefore, State.residue?, if_neg hafter]
    exact .cons ⟨hresidue.tallies, hresidue.viewPure⟩ .nil

/-- A residue that appears is one block more, fully covered by the standard tallies and never by the
    logical ones. -/
theorem fileBlocks_of_outsideAppears (allFunctions : Bool) (h : List.Forall₂ SameOrStarred rows rows')
    (houtside : OutsideAppears rows rows') :
    fileBlocks allFunctions rows = functionBlocks allFunctions rows ∧
      ∃ block, fileBlocks allFunctions rows' = functionBlocks allFunctions rows' ++ [block] ∧
        block.isFullyCoveredIn .standard ∧ block.isFullyCoveredIn .logical = false := by
  obtain ⟨hnone, hsome⟩ := houtside
  have hbefore : (afterLines rows).residue.tallies.counted = 0 := by
    by_contra hcounted
    simp [State.residue?, hcounted] at hnone
  have hafter : (afterLines rows').residue.tallies.counted ≠ 0 := by
    intro hcounted
    simp [State.residue?, hcounted] at hsome
  constructor
  · rw [fileBlocks_eq, hnone, Option.toList_none, List.append_nil]
  · refine ⟨(afterLines rows').residue.complete, ?_, ?_⟩
    · rw [fileBlocks_eq, State.residue?, if_neg hafter, Option.toList_some]
    · exact (improves_residue h).isFullyCoveredIn_of_counted (bounded_residue rows) hbefore hafter

end Scan

end FuzzCoverage

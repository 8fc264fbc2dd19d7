import FuzzCoverage.Proofs.Scan.Surroundings
import Mathlib.Data.List.Forall2

/-! # Two scans of the same code

Where a unit begins and ends is decided by code alone, so two scans of lines with the same code stand
in the same place line by line, and each has a block for every block of the other.  What the blocks
have in common is a relation that single lines keep (`Keeps`): `State.Alike.stepLine` carries it
through a line, `State.Alike.runLines` through a scan, and `State.Alike.blocks` to what that returns.
For files it is enough to compare rows before the headers of assembly blocks have been filled
(`forall₂_linesOf`).

The residue has a relation of its own, since a line may be read into one residue and left out of the
other. -/

namespace FuzzCoverage

open Solidity Trace

namespace Scan

variable {Q : Line → Line → Prop} {R S : Block → Block → Prop}

/-- Lines related by `Q` have the same code, keep the relation `R` between the blocks that they are
    read into, and the relation `S` between the residues. -/
structure Keeps (Q : Line → Line → Prop) (R S : Block → Block → Prop) : Prop where
  code : ∀ {line line'}, Q line line' → line.code = line'.code
  opened : ∀ unit : Heading, R unit.block unit.block
  marked : ∀ {b b' line line'}, R b b' → Q line line' → R (b.mark [line]) (b'.mark [line'])
  read : ∀ {b b' line line'}, R b b' → Q line line' → R (b.read line) (b'.read line')
  completed : ∀ {b b'}, R b b' → R b.complete b'.complete
  residue : ∀ {b b' line line'}, S b b' → Q line line' →
    S (if line.isResidue then b.read line else b) (if line'.isResidue then b'.read line' else b')

inductive Phase.Alike (R : Block → Block → Prop) : Phase → Phase → Prop
  | outside : Alike R .outside .outside
  | heading {b b' : Block} (related : R b b') : Alike R (.heading b) (.heading b')
  | body {b b' : Block} {depth : Nat} (related : R b b') (isOpen : 0 < depth) :
      Alike R (.body b depth) (.body b' depth)

namespace State

/-- Two scans stand in the same place, and what they have found is related. -/
structure Alike (R S : Block → Block → Prop) (s s' : State) : Prop where
  phase : s.phase.Alike R s'.phase
  residue : S s.residue s'.residue
  closed : List.Forall₂ R s.closed s'.closed

variable {s s' : State} {b b' : Block} {line line' : Line}

theorem Alike.withPhase {phase phase' : Phase} (h : s.Alike R S s') (hphase : phase.Alike R phase') :
    { s with phase := phase }.Alike R S { s' with phase := phase' } :=
  ⟨hphase, h.residue, h.closed⟩

theorem Alike.close (keeps : Keeps Q R S) (h : s.Alike R S s') (hb : R b b') :
    (s.close b).Alike R S (s'.close b') := by
  refine ⟨.outside, h.residue, ?_⟩
  exact List.rel_append h.closed (.cons (keeps.completed hb) .nil)

theorem Alike.settle (keeps : Keeps Q R S) (h : s.Alike R S s') (hb : R b b') (depth : Nat)
    (braces : Braces) : (s.settle b depth braces).Alike R S (s'.settle b' depth braces) := by
  by_cases hcloses : depth + braces.opens ≤ braces.closes
  · rw [settle_of_le hcloses, settle_of_le hcloses]
    exact h.close keeps hb
  · have hopen : braces.closes < depth + braces.opens := by omega
    rw [settle_of_lt hopen, settle_of_lt hopen]
    exact h.withPhase (.body hb (by omega))

theorem Alike.declare (keeps : Keeps Q R S) (h : s.Alike R S s') (hb : R b b') (hline : Q line line') :
    (s.declare b line).Alike R S (s'.declare b' line') := by
  have hcode := keeps.code hline
  have hbraces : line.braces = line'.braces := by simp [Line.braces, hcode]
  have hends : line.endsInSemicolon = line'.endsInSemicolon := by simp [Line.endsInSemicolon, hcode]
  have hread := keeps.read (keeps.marked hb hline) hline
  rw [State.declare, State.declare, hbraces, hends]
  split
  · exact h.settle keeps hread 0 _
  · split
    · exact h.withPhase .outside
    · exact h.withPhase (.heading hread)

/-- Lines of the same code leave two scans alike that were alike before. -/
theorem Alike.stepLine (keeps : Keeps Q R S) (h : s.Alike R S s') (hline : Q line line') :
    (s.stepLine line).Alike R S (s'.stepLine line') := by
  have hcode := keeps.code hline
  have hheading : line.heading? = line'.heading? := by simp [Line.heading?, hcode]
  have hphase := h.phase
  generalize hplace : s.phase = place, hplace' : s'.phase = place' at hphase
  cases hphase with
  | outside =>
    cases hunit : line.heading? with
    | none =>
      rw [stepLine_outside hplace hunit, stepLine_outside hplace' (hheading ▸ hunit)]
      exact ⟨h.phase, keeps.residue h.residue hline, h.closed⟩
    | some unit =>
      rw [stepLine_start (by simp [hplace]) hunit, stepLine_start (by simp [hplace']) (hheading ▸ hunit)]
      exact h.declare keeps (keeps.opened unit) hline
  | heading related =>
    cases hunit : line.heading? with
    | none =>
      rw [stepLine_heading hplace hunit, stepLine_heading hplace' (hheading ▸ hunit)]
      exact h.declare keeps related hline
    | some unit =>
      rw [stepLine_start (by simp [hplace]) hunit, stepLine_start (by simp [hplace']) (hheading ▸ hunit)]
      exact h.declare keeps (keeps.opened unit) hline
  | body related isOpen =>
    have hbraces : line.braces = line'.braces := by simp [Line.braces, hcode]
    rw [stepLine_body hplace isOpen, stepLine_body hplace' isOpen, hbraces]
    exact h.settle keeps (keeps.read related hline) _ _

theorem Alike.runLines (keeps : Keeps Q R S) {lines lines' : List Line} (h : s.Alike R S s')
    (hlines : List.Forall₂ Q lines lines') : (s.runLines lines).Alike R S (s'.runLines lines') := by
  induction hlines generalizing s s' with
  | nil => exact h
  | cons hline _ ih => exact ih (h.stepLine keeps hline)

theorem Alike.blocks (keeps : Keeps Q R S) (h : s.Alike R S s') :
    List.Forall₂ R s.blocks s'.blocks := by
  have hphase := h.phase
  generalize hplace : s.phase = place, hplace' : s'.phase = place' at hphase
  cases hphase with
  | outside => simpa [State.blocks, hplace, hplace'] using h.closed
  | heading => simpa [State.blocks, hplace, hplace'] using h.closed
  | body related isOpen =>
    simp only [State.blocks, hplace, hplace']
    exact List.rel_append h.closed (.cons (keeps.completed related) .nil)

end State

/-! ## Files -/

variable {P : Row → Row → Prop} {rows rows' : List Row}

/-- What rows have in common their lines have too, if a header that takes the outcome of the row after
    it keeps to it. -/
theorem forall₂_linesOf (source : ∀ {row row'}, P row row' → row'.source = row.source)
    (header : ∀ {row row'}, P row row' → isAssemblyHeader row' = isAssemblyHeader row)
    (filled : ∀ {row row' next next'}, P row row' → P next next' →
      P (row.withOutcomeOf next) (row'.withOutcomeOf next'))
    (h : List.Forall₂ P rows rows') (inComment : Bool) :
    List.Forall₂ (fun line line' => line.code = line'.code ∧ P line.row line'.row)
      (linesOf inComment (fillAssemblyHeaders rows)) (linesOf inComment (fillAssemblyHeaders rows')) := by
  induction h generalizing inComment with
  | nil => exact .nil
  | @cons row row' rows rows' hrow hrows ih =>
    rw [linesOf_fillAssemblyHeaders_cons, linesOf_fillAssemblyHeaders_cons, filledLine, filledLine,
      source hrow]
    refine .cons ⟨rfl, ?_⟩ (ih _)
    cases hrows with
    | nil => exact hrow
    | cons hnext _ =>
      simp only [List.head?_cons, fillHeader, header hrow]
      split
      · exact filled hrow hnext
      · exact hrow

end Scan

end FuzzCoverage

import FuzzCoverage.Proofs.Scan.Line
import FuzzCoverage.Scan.File

/-! # What a line does to the figures of a file

The figures of a block are what coverage is computed from: its unit, its tallies and whether its
heading says that it does not change the state.  A scan reads a few things off a line that matter to
the figures of its file, and `Line.effect` is all of them:

* `State.SameFigures.stepLine` — lines of one effect take states with the same figures to states
  with the same figures;
* `figuresOf_eq` — files whose rows have the same effects, one by one, have the same figures. -/

namespace FuzzCoverage

open Solidity Trace

/-- What coverage is computed from. -/
structure Figures where
  unit : Heading
  tallies : Tallies
  viewPure : Bool
  deriving DecidableEq, Repr

def Block.figures (b : Block) : Figures := ⟨b.unit, b.tallies, b.viewPure⟩

/-- What a row adds does not depend on what it is added to. -/
theorem Tallies.add_eq (t : Tallies) (outcome : Outcome) :
    t.add outcome =
      { covered := t.covered + (({} : Tallies).add outcome).covered
        reverted := t.reverted + (({} : Tallies).add outcome).reverted
        untouched := t.untouched + (({} : Tallies).add outcome).untouched
        logicalCovered := t.logicalCovered + (({} : Tallies).add outcome).logicalCovered
        logicalUntouched := t.logicalUntouched + (({} : Tallies).add outcome).logicalUntouched } := by
  cases outcome <;> simp [Tallies.add]

theorem Tallies.add_of_eq_empty {t : Tallies} {outcome : Outcome}
    (h : ({} : Tallies).add outcome = {}) : t.add outcome = t := by
  rw [Tallies.add_eq, h]
  rfl

namespace Scan

namespace Line

/-- What the line adds to the tallies of its block. -/
def tallies (line : Line) : Tallies := ({} : Tallies).add line.outcome

def endsDeclaration (line : Line) : Bool := line.braces.opens == 0 && line.endsInSemicolon

end Line

/-- What a line can do to the figures of its file. -/
@[ext]
structure Effect where
  /-- What it adds to the block it stands in. -/
  tallies : Tallies
  /-- What it adds to the residue where the scan is outside of every block. -/
  residue : Tallies
  braces : Braces
  endsDeclaration : Bool
  /-- The unit that it opens a block for, which is not given up on the line itself. -/
  unit : Option Heading
  /-- Whether it says of a heading that goes on that it does not change the state. -/
  viewPure : Bool
  deriving DecidableEq, Repr

def Line.effect (line : Line) : Effect :=
  { tallies := line.tallies
    residue := if line.heading? = none ∧ line.isResidue then line.tallies else {}
    braces := line.braces
    endsDeclaration := line.endsDeclaration
    unit := if line.endsDeclaration then none else line.heading?
    viewPure := !line.endsDeclaration && line.saysViewPure }

end Scan

open Scan

/-! ## Blocks -/

namespace Block

theorem figures_read {b b' : Block} {line line' : Line} (hfigures : b.figures = b'.figures)
    (htallies : line.tallies = line'.tallies) :
    (b.read line).figures = (b'.read line').figures := by
  simp only [figures, Figures.mk.injEq] at hfigures ⊢
  obtain ⟨hunit, hadded, hview⟩ := hfigures
  refine ⟨hunit, ?_, hview⟩
  simp only [Line.tallies] at htallies
  simp only [read, skipRow, add]
  rw [Tallies.add_eq, Tallies.add_eq b'.tallies, hadded, htallies]

theorem figures_read_of_tallies_eq_empty {b : Block} {line : Line} (h : line.tallies = {}) :
    (b.read line).figures = b.figures := by
  have hadd : b.tallies.add line.outcome = b.tallies := Tallies.add_of_eq_empty h
  simp only [figures, read, skipRow, add, hadd]
  rfl

theorem figures_mark {b b' : Block} {line line' : Line} (hfigures : b.figures = b'.figures)
    (hview : line.saysViewPure = line'.saysViewPure) :
    (b.mark [line]).figures = (b'.mark [line']).figures := by
  simp only [figures, Figures.mk.injEq] at hfigures ⊢
  refine ⟨hfigures.1, hfigures.2.1, ?_⟩
  simp [mark, hfigures.2.2, hview]

end Block

/-! ## Scans -/

namespace Scan

/-- Two scans stand in the same place, in blocks with the same figures. -/
inductive Phase.SameFigures : Phase → Phase → Prop
  | outside : SameFigures .outside .outside
  | heading {block block' : Block} (figures : block.figures = block'.figures) :
      SameFigures (.heading block) (.heading block')
  | body {block block' : Block} {depth : Nat} (figures : block.figures = block'.figures)
      (isOpen : 0 < depth) : SameFigures (.body block depth) (.body block' depth)

namespace State

/-- Two scans have found the same so far, as far as figures go. -/
structure SameFigures (s s' : State) : Prop where
  phase : s.phase.SameFigures s'.phase
  residue : s.residue.figures = s'.residue.figures
  closed : s.closed.map Block.figures = s'.closed.map Block.figures

variable {s s' : State} {block block' : Block} {line line' : Line}

theorem SameFigures.withPhase {phase phase' : Phase} (h : s.SameFigures s')
    (hphase : phase.SameFigures phase') :
    { s with phase := phase }.SameFigures { s' with phase := phase' } :=
  ⟨hphase, h.residue, h.closed⟩

theorem SameFigures.close (h : s.SameFigures s') (hblock : block.figures = block'.figures) :
    (s.close block).SameFigures (s'.close block') := by
  refine ⟨.outside, h.residue, ?_⟩
  have hcomplete : block.complete.figures = block'.complete.figures := hblock
  simp [State.close, h.closed, hcomplete]

theorem SameFigures.settle {depth : Nat} {braces : Braces} (h : s.SameFigures s')
    (hblock : block.figures = block'.figures) :
    (s.settle block depth braces).SameFigures (s'.settle block' depth braces) := by
  by_cases hclosed : depth + braces.opens ≤ braces.closes
  · rw [settle_of_le hclosed, settle_of_le hclosed]
    exact h.close hblock
  · have hopen : braces.closes < depth + braces.opens := by omega
    rw [settle_of_lt hopen, settle_of_lt hopen]
    exact h.withPhase (.body hblock (by omega))

theorem declare_of_endsDeclaration (h : line.endsDeclaration) :
    s.declare block line = { s with phase := .outside } := by
  simp only [Line.endsDeclaration, Bool.and_eq_true, beq_iff_eq] at h
  simp [declare, h.1, h.2]

theorem declare_of_not_endsDeclaration (h : line.endsDeclaration = false) :
    s.declare block line =
      if 0 < line.braces.opens then s.settle ((block.mark [line]).read line) 0 line.braces
      else { s with phase := .heading ((block.mark [line]).read line) } := by
  rw [declare]
  split
  · rfl
  · have hzero : line.braces.opens = 0 := by omega
    have hends : line.endsInSemicolon = false := by simpa [Line.endsDeclaration, hzero] using h
    rw [hends]
    rfl

theorem SameFigures.declare (h : s.SameFigures s') (hblock : block.figures = block'.figures)
    (heffect : line.effect = line'.effect) :
    (s.declare block line).SameFigures (s'.declare block' line') := by
  have hends : line.endsDeclaration = line'.endsDeclaration := congrArg Effect.endsDeclaration heffect
  have hbraces : line.braces = line'.braces := congrArg Effect.braces heffect
  cases hline : line.endsDeclaration with
  | true =>
    rw [declare_of_endsDeclaration hline, declare_of_endsDeclaration (hends ▸ hline)]
    exact h.withPhase .outside
  | false =>
    have hline' : line'.endsDeclaration = false := hends ▸ hline
    have hview : line.saysViewPure = line'.saysViewPure := by
      simpa [Line.effect, hline, hline'] using congrArg Effect.viewPure heffect
    have hread := Block.figures_read (Block.figures_mark hblock hview)
      (congrArg Effect.tallies heffect)
    rw [declare_of_not_endsDeclaration hline, declare_of_not_endsDeclaration hline', hbraces]
    split
    · exact h.settle hread
    · exact h.withPhase (.heading hread)

theorem heading?_of_effect {unit : Heading} (h : line.effect.unit = some unit) :
    line.heading? = some unit := by
  simp only [Line.effect] at h
  split at h
  · cases h
  · exact h

/-- Where no block is opened, no unit begins, or one that is a declaration without a body. -/
theorem heading?_or_endsDeclaration (h : line.effect.unit = none) :
    line.heading? = none ∨ line.endsDeclaration ∧ ∃ unit, line.heading? = some unit := by
  cases hunit : line.heading? with
  | none => exact Or.inl rfl
  | some unit =>
    cases hends : line.endsDeclaration with
    | true => exact Or.inr ⟨rfl, unit, rfl⟩
    | false => simp [Line.effect, hends, hunit] at h

theorem stepLine_outside_of_unit (hs : s.phase = .outside) (h : line.effect.unit = none) :
    s.stepLine line =
      { s with residue :=
          if line.heading? = none ∧ line.isResidue then s.residue.read line else s.residue } := by
  rcases heading?_or_endsDeclaration h with hnone | ⟨hends, unit, hunit⟩
  · simp [stepLine_outside hs hnone, hnone]
  · rw [stepLine_start (by simp [hs]) hunit, declare_of_endsDeclaration hends]
    simp [hunit, ← hs]

theorem stepLine_heading_of_unit (hs : s.phase = .heading block) (h : line.effect.unit = none) :
    s.stepLine line = s.declare block line := by
  rcases heading?_or_endsDeclaration h with hnone | ⟨hends, unit, hunit⟩
  · exact stepLine_heading hs hnone
  · rw [stepLine_start (by simp [hs]) hunit, declare_of_endsDeclaration hends,
      declare_of_endsDeclaration hends]

theorem figures_residue (hblock : block.figures = block'.figures)
    (hresidue : line.effect.residue = line'.effect.residue) :
    (if line.heading? = none ∧ line.isResidue then block.read line else block).figures =
      (if line'.heading? = none ∧ line'.isResidue then block'.read line' else block').figures := by
  simp only [Line.effect] at hresidue
  -- where one line is read and the other is not, the first adds nothing
  split <;> split <;> rename_i hline hline' <;> simp only [hline, hline', if_false] at hresidue
  · exact Block.figures_read hblock hresidue
  · rw [Block.figures_read_of_tallies_eq_empty hresidue, hblock]
  · rw [Block.figures_read_of_tallies_eq_empty hresidue.symm, hblock]
  · exact hblock

/-- **A line does to the figures what its effect says**, wherever the scan stands. -/
theorem SameFigures.stepLine (h : s.SameFigures s') (heffect : line.effect = line'.effect) :
    (s.stepLine line).SameFigures (s'.stepLine line') := by
  have hunit : line.effect.unit = line'.effect.unit := congrArg Effect.unit heffect
  have hphase := h.phase
  generalize hplace : s.phase = place, hplace' : s'.phase = place' at hphase
  -- a line that opens a block is read in the same way wherever a block may open
  cases hphase with
  | outside =>
    cases hopens : line.effect.unit with
    | none =>
      rw [stepLine_outside_of_unit hplace hopens, stepLine_outside_of_unit hplace' (hunit ▸ hopens)]
      refine ⟨h.phase, ?_, h.closed⟩
      exact figures_residue h.residue (congrArg Effect.residue heffect)
    | some unit =>
      rw [stepLine_start (by simp [hplace]) (heading?_of_effect hopens),
        stepLine_start (by simp [hplace']) (heading?_of_effect (hunit ▸ hopens))]
      exact h.declare rfl heffect
  | heading figures =>
    cases hopens : line.effect.unit with
    | none =>
      rw [stepLine_heading_of_unit hplace hopens, stepLine_heading_of_unit hplace' (hunit ▸ hopens)]
      exact h.declare figures heffect
    | some unit =>
      rw [stepLine_start (by simp [hplace]) (heading?_of_effect hopens),
        stepLine_start (by simp [hplace']) (heading?_of_effect (hunit ▸ hopens))]
      exact h.declare rfl heffect
  | body figures isOpen =>
    have hbraces : line.braces = line'.braces := congrArg Effect.braces heffect
    rw [stepLine_body hplace isOpen, stepLine_body hplace' isOpen, hbraces]
    exact h.settle (Block.figures_read figures (congrArg Effect.tallies heffect))

theorem SameFigures.runLines {lines lines' : List Line} (h : s.SameFigures s')
    (heffects : lines.map Line.effect = lines'.map Line.effect) :
    (s.runLines lines).SameFigures (s'.runLines lines') := by
  induction lines generalizing s s' lines' with
  | nil =>
    obtain rfl := List.map_eq_nil_iff.1 heffects.symm
    exact h
  | cons line lines ih =>
    obtain ⟨line', rest', rfl, hline, hlines⟩ := List.map_eq_cons_iff.1 heffects.symm
    rw [runLines_cons, runLines_cons]
    exact ih (h.stepLine hline.symm) hlines.symm

theorem SameFigures.blocks (h : s.SameFigures s') :
    s.blocks.map Block.figures = s'.blocks.map Block.figures := by
  have hphase := h.phase
  generalize hplace : s.phase = place, hplace' : s'.phase = place' at hphase
  cases hphase with
  | outside => simp [State.blocks, hplace, hplace', h.closed]
  | heading => simp [State.blocks, hplace, hplace', h.closed]
  | @body block block' depth figures isOpen =>
    have hcomplete : block.complete.figures = block'.complete.figures := figures
    simp [State.blocks, hplace, hplace', h.closed, hcomplete]

theorem SameFigures.residue? (h : s.SameFigures s') :
    s.residue?.map Block.figures = s'.residue?.map Block.figures := by
  have htallies : s.residue.tallies = s'.residue.tallies := congrArg Figures.tallies h.residue
  have hcomplete : s.residue.complete.figures = s'.residue.complete.figures := h.residue
  simp only [State.residue?, htallies]
  split
  · rfl
  · exact congrArg some hcomplete

end State

/-! ## Files -/

/-- The blocks of a file whose rows are known. -/
def blocksOfRows (allFunctions : Bool) (rows : List Row) : List Block :=
  let state := ({} : State).run (fillAssemblyHeaders rows)
  withoutViewPure allFunctions state.blocks ++ state.residue?.toList

theorem fileBlocks_eq_blocksOfRows (allFunctions : Bool) (lines : List Text) :
    fileBlocks allFunctions lines = blocksOfRows allFunctions (parseRows lines) := rfl

theorem blocksOfRows_eq_runLines (allFunctions : Bool) (rows : List Row) :
    blocksOfRows allFunctions rows =
      withoutViewPure allFunctions
          (({} : State).runLines (linesOf false (fillAssemblyHeaders rows))).blocks ++
        (({} : State).runLines (linesOf false (fillAssemblyHeaders rows))).residue?.toList := by
  rw [blocksOfRows, State.run_eq_runLines]
  rfl

def figuresOf (allFunctions : Bool) (rows : List Row) : List Figures :=
  (blocksOfRows allFunctions rows).map Block.figures

/-- The effects of the rows of a file, where the headers of assembly blocks have the outcome of the
    rows after them. -/
def effectsOf (rows : List Row) : List Effect :=
  (linesOf false (fillAssemblyHeaders rows)).map Line.effect

theorem figures_withoutViewPure (allFunctions : Bool) {blocks blocks' : List Block}
    (h : blocks.map Block.figures = blocks'.map Block.figures) :
    (withoutViewPure allFunctions blocks).map Block.figures =
      (withoutViewPure allFunctions blocks').map Block.figures := by
  have hfigures : ∀ blocks : List Block,
      (withoutViewPure allFunctions blocks).map Block.figures =
        if allFunctions || (blocks.map Block.figures).all (·.viewPure) then blocks.map Block.figures
        else (blocks.map Block.figures).filter (!·.viewPure) := by
    intro blocks
    have hall : (blocks.map Block.figures).all (·.viewPure) = blocks.all (·.viewPure) :=
      List.all_map
    rw [withoutViewPure, apply_ite (List.map Block.figures), hall, List.filter_map]
    rfl
  rw [hfigures, hfigures, h]

/-- **The figures of a file depend on the effects of its rows only.** -/
theorem figuresOf_eq {rows rows' : List Row} (h : effectsOf rows = effectsOf rows')
    (allFunctions : Bool) : figuresOf allFunctions rows = figuresOf allFunctions rows' := by
  have hstart : ({} : State).SameFigures {} := ⟨.outside, rfl, rfl⟩
  have hrun := hstart.runLines h
  have hblocks := figures_withoutViewPure allFunctions hrun.blocks
  have hresidue := congrArg Option.toList hrun.residue?
  rw [Option.toList_map, Option.toList_map] at hresidue
  simp only [figuresOf, blocksOfRows_eq_runLines, List.map_append]
  rw [hblocks, hresidue]

end Scan

end FuzzCoverage

import FuzzCoverage.Proofs.Scan.Resumed
import FuzzCoverage.Proofs.Scan.SameCode

/-! # Traces without hit counts

The legacy layout tells of no hits, so that every row of it may run.  A scan asks of a hit column only
whether it is empty, and for rows outside of every function whether there is one:

* other hit counts change nothing (`stepLine_withHits`);
* without them the functions stay the same, and what lies outside of them loses the rows that no run
  reached (`keeps_reachedOnly`).

The header of an assembly block takes its hit column from the row after it, which has lost its count as
well. -/

namespace FuzzCoverage

open Scan Solidity Trace

/-! ## Rows -/

namespace Trace

/-- The hit column with another count, if there is one in it. -/
def Instrumentation.withHits (count : Nat) : Instrumentation → Instrumentation
  | .hits _ => .hits count
  | other => other

/-- What the legacy layout leaves of a hit column. -/
def Instrumentation.withoutHits : Instrumentation → Instrumentation
  | .hits _ => .unknown
  | other => other

def Row.withHits (count : Nat) (row : Row) : Row :=
  { row with instrumentation := row.instrumentation.withHits count }

def Row.withoutHits (row : Row) : Row := { row with instrumentation := row.instrumentation.withoutHits }

theorem Row.isActive_withHits (count : Nat) (row : Row) : (row.withHits count).isActive = row.isActive := by
  cases row with
  | mk _ instrumentation => cases instrumentation <;> rfl

theorem Row.isActive_withoutHits (row : Row) : row.withoutHits.isActive = row.isActive := by
  cases row with
  | mk _ instrumentation => cases instrumentation <;> rfl

theorem Row.isUnmarkedLegacy_withHits (count : Nat) (row : Row) :
    (row.withHits count).isUnmarkedLegacy = row.isUnmarkedLegacy := by
  cases row with
  | mk _ instrumentation => cases instrumentation <;> rfl

/-- Without hit counts every unmarked row that may run is one of the legacy layout. -/
theorem Row.isUnmarkedLegacy_withoutHits {row : Row} (active : row.isActive)
    (unmarked : row.marker = .unmarked) : row.withoutHits.isUnmarkedLegacy := by
  cases row with
  | mk _ instrumentation marker =>
    obtain rfl : marker = .unmarked := unmarked
    cases instrumentation with
    | hits count => rfl
    | structural => cases active
    | unknown => rfl

theorem Row.isUnmarkedLegacy_of_marked {row : Row} (marked : row.marker ≠ .unmarked) :
    row.isUnmarkedLegacy = false := by
  simp [Row.isUnmarkedLegacy, marked]

end Trace

/-- How a row counts depends on whether it has a counter, and not on the count. -/
theorem Outcome.of_eq {row row' : Row} (active : row'.isActive = row.isActive)
    (marker : row'.marker = row.marker) (source : row'.source = row.source) (code : Text) :
    Outcome.of row' code = Outcome.of row code := by
  rw [Outcome.of, Outcome.of, active, marker, source]

namespace Scan

theorem isAssemblyHeader_eq {row row' : Row} (active : row'.isActive = row.isActive)
    (source : row'.source = row.source) : isAssemblyHeader row' = isAssemblyHeader row := by
  rw [isAssemblyHeader, isAssemblyHeader, active, source]

/-! ## Other hit counts -/

/-- The line of a row, and that of the row with another hit count. -/
def ChangesHits (line line' : Line) : Prop :=
  line.code = line'.code ∧ ∃ count, line'.row = line.row.withHits count

theorem stepLine_withHits {line line' : Line} (h : ChangesHits line line') (s : State) :
    s.stepLine line' = s.stepLine line := by
  obtain ⟨hcode, count, hrow⟩ := h
  have houtcome : ∀ code, Outcome.of line'.row code = Outcome.of line.row code := by
    rw [hrow]
    exact Outcome.of_eq (line.row.isActive_withHits count) rfl rfl
  have hlegacy : line'.row.isUnmarkedLegacy = line.row.isUnmarkedLegacy := by
    rw [hrow]
    exact line.row.isUnmarkedLegacy_withHits count
  simp only [State.stepLine, ← hcode, State.stepCode, State.stepOutside, State.stepHeading, State.stepBody,
    Block.record, houtcome, hlegacy]

theorem runLines_withHits {lines lines' : List Line} (h : List.Forall₂ ChangesHits lines lines') (s : State) :
    s.runLines lines' = s.runLines lines := by
  induction h generalizing s with
  | nil => rfl
  | cons hline _ ih => rw [State.runLines_cons, State.runLines_cons, stepLine_withHits hline, ih]

theorem forall₂_mapIdx_withHits (rows : List Row) (counts : Nat → Nat) :
    List.Forall₂ (fun row row' => ∃ count, row' = row.withHits count) rows
      (rows.mapIdx fun i row => row.withHits (counts i)) := by
  induction rows generalizing counts with
  | nil => exact .nil
  | cons row rows ih =>
    rw [List.mapIdx_cons]
    exact .cons ⟨_, rfl⟩ (ih _)

theorem blocksOfRows_withHits (rows : List Row) (counts : Nat → Nat) (allFunctions : Bool) :
    blocksOfRows allFunctions (rows.mapIdx fun i row => row.withHits (counts i)) =
      blocksOfRows allFunctions rows := by
  have hlines : List.Forall₂ ChangesHits (linesOf false (fillAssemblyHeaders rows))
      (linesOf false (fillAssemblyHeaders (rows.mapIdx fun i row => row.withHits (counts i)))) := by
    refine forall₂_linesOf ?_ ?_ ?_ (forall₂_mapIdx_withHits rows counts) false
    · rintro row _ ⟨count, rfl⟩
      rfl
    · rintro row _ ⟨count, rfl⟩
      exact isAssemblyHeader_eq (row.isActive_withHits count) rfl
    · rintro row _ next _ ⟨_, rfl⟩ ⟨count, rfl⟩
      exact ⟨count, rfl⟩
  rw [blocksOfRows_eq_runLines, blocksOfRows_eq_runLines, runLines_withHits hlines]

/-! ## No hit counts -/

/-- The line of a row, and that of the row without its hit count. -/
structure LosesHits (line line' : Line) : Prop where
  code : line.code = line'.code
  row : line'.row = line.row.withoutHits

/-- The second block holds what the first one does, without the rows that no run reached. -/
structure ReachedOnly (b b' : Block) : Prop where
  tallies : b'.tallies = { b.tallies with untouched := 0, logicalUntouched := 0 }
  revertedSnippets : b'.revertedSnippets = b.revertedSnippets
  untouchedSnippets : b'.untouchedSnippets = []

variable {line line' : Line} {b b' : Block}

theorem LosesHits.outcome (h : LosesHits line line') : line'.outcome = line.outcome := by
  have hof : ∀ code, Outcome.of line'.row code = Outcome.of line.row code := by
    rw [h.row]
    exact Outcome.of_eq line.row.isActive_withoutHits rfl rfl
  rw [Line.outcome, Line.outcome, h.code, funext hof]

theorem LosesHits.isResidue_of_marked (h : LosesHits line line') (marked : line.row.marker ≠ .unmarked) :
    line'.isResidue = line.isResidue := by
  have hmarked : line'.row.marker ≠ .unmarked := by
    rw [h.row]
    exact marked
  rw [Line.isResidue, Line.isResidue, h.code, Row.isUnmarkedLegacy_of_marked marked,
    Row.isUnmarkedLegacy_of_marked hmarked]

theorem LosesHits.isResidue_of_unmarked (h : LosesHits line line') (active : line.row.isActive)
    (unmarked : line.row.marker = .unmarked) : line'.isResidue = false := by
  rw [Line.isResidue, h.row, Row.isUnmarkedLegacy_withoutHits active unmarked, Bool.not_true, Bool.and_false]

theorem ReachedOnly.add (h : ReachedOnly b b') {outcome : Outcome}
    (reached : outcome.untouchedIn .standard = false) : ReachedOnly (b.add outcome) (b'.add outcome) := by
  have hsnippets : outcome.untouchedSnippets = [] := by
    cases outcome with
    | untouched logical snippet => cases reached
    | _ => rfl
  refine ⟨?_, ?_, ?_⟩
  · show b'.tallies.add outcome = { b.tallies.add outcome with untouched := 0, logicalUntouched := 0 }
    rw [h.tallies]
    cases outcome with
    | untouched logical snippet => cases reached
    | _ => rfl
  · show b'.revertedSnippets ++ _ = b.revertedSnippets ++ _
    rw [h.revertedSnippets]
  · show b'.untouchedSnippets ++ outcome.untouchedSnippets = []
    rw [h.untouchedSnippets, hsnippets, List.append_nil]

theorem ReachedOnly.add_untouched (h : ReachedOnly b b') (logical : Bool) (snippet : Text) :
    ReachedOnly (b.add (.untouched logical snippet)) b' := by
  refine ⟨h.tallies, ?_, h.untouchedSnippets⟩
  show b'.revertedSnippets = b.revertedSnippets ++ []
  rw [List.append_nil, h.revertedSnippets]

/-- A row that no run reached is read into the first residue only. -/
theorem ReachedOnly.residue (h : ReachedOnly b b') (hline : LosesHits line line') :
    ReachedOnly (if line.isResidue then b.read line else b)
      (if line'.isResidue then b'.read line' else b') := by
  have hread : line.outcome.untouchedIn .standard = false → ReachedOnly (b.read line) (b'.read line') := by
    intro reached
    have hadd := h.add reached
    rw [Block.read, Block.read, hline.outcome]
    exact ⟨hadd.tallies, hadd.revertedSnippets, hadd.untouchedSnippets⟩
  have hfares := line.fares
  have houtcome' := hline.outcome
  generalize houtcome : line.outcome = outcome at hfares hread houtcome'
  cases hfares with
  | uncounted =>
    -- whether it is read or not, it adds no more than a row
    have hsame : ∀ (b : Block) (line : Line), line.outcome = .uncounted → b.read line = b.skipRow := by
      intro b line hnone
      rw [Block.read, hnone, Block.add_uncounted]
    rw [hsame b line houtcome, hsame b' line' houtcome']
    split <;> split <;> exact ⟨h.tallies, h.revertedSnippets, h.untouchedSnippets⟩
  | covered active marker | reverted active marker =>
    rw [hline.isResidue_of_marked (by simp [marker])]
    split
    · exact hread rfl
    · exact h
  | untouched active marker =>
    rw [hline.isResidue_of_unmarked active marker, if_neg Bool.false_ne_true]
    split
    · have hadd := h.add_untouched line.isLogical line.row.source
      rw [Block.read, houtcome]
      exact ⟨hadd.tallies, hadd.revertedSnippets, hadd.untouchedSnippets⟩
    · exact h

theorem keeps_reachedOnly : Keeps LosesHits Eq ReachedOnly where
  code h := h.code
  opened unit := rfl
  marked := by
    rintro b _ line line' rfl h
    simp only [Block.mark, List.any_cons, List.any_nil, Line.saysViewPure, h.code]
  read := by
    rintro b _ line line' rfl h
    rw [Block.read, Block.read, h.outcome]
  completed h := congrArg Block.complete h
  residue h hline := h.residue hline

theorem alike_withoutHits (rows : List Row) :
    (({} : State).run (fillAssemblyHeaders rows)).Alike Eq ReachedOnly
      (({} : State).run (fillAssemblyHeaders (rows.map Row.withoutHits))) := by
  have hrows : List.Forall₂ (fun row row' => row' = row.withoutHits) rows (rows.map Row.withoutHits) :=
    List.forall₂_map_right_iff.2 (List.forall₂_same.2 fun _ _ => rfl)
  have hlines : List.Forall₂ LosesHits (linesOf false (fillAssemblyHeaders rows))
      (linesOf false (fillAssemblyHeaders (rows.map Row.withoutHits))) := by
    refine (forall₂_linesOf ?_ ?_ ?_ hrows false).imp fun _ _ hline => ⟨hline.1, hline.2⟩
    · rintro row _ rfl
      rfl
    · rintro row _ rfl
      exact isAssemblyHeader_eq row.isActive_withoutHits rfl
    · rintro row _ next _ rfl rfl
      rfl
  have hstart : ({} : State).Alike Eq ReachedOnly {} := ⟨.outside, ⟨rfl, rfl, rfl⟩, .nil⟩
  have hrun := hstart.runLines keeps_reachedOnly hlines
  rw [State.run_eq_runLines, State.run_eq_runLines]
  exact ⟨hrun.phase, hrun.residue, hrun.closed⟩

theorem ReachedOnly.isTouched (h : ReachedOnly b b') : (b'.tallies.counted != 0) = b.isTouched := by
  rw [h.tallies, Block.isTouched, Bool.eq_iff_iff]
  simp only [Tallies.counted, bne_iff_ne, Bool.or_eq_true]
  omega

theorem State.isSome_residue? (s : State) : s.residue?.isSome = (s.residue.tallies.counted != 0) := by
  by_cases hcounted : s.residue.tallies.counted = 0
  · rw [residue?, if_pos hcounted, hcounted]
    rfl
  · rw [residue?, if_neg hcounted, bne_iff_ne.2 hcounted]
    rfl

/-- **The two layouts of a trace agree.**  Without the hit counts the functions are the same blocks.
    What lies outside of them keeps all that ran, and its rows that no run reached are gone, so that
    there is a block for it if some row of it ran.  Which numbers the hit counts are does not
    matter. -/
theorem blocks_withoutHits (rows : List Row) :
    (({} : State).run (fillAssemblyHeaders (rows.map Row.withoutHits))).blocks =
        (({} : State).run (fillAssemblyHeaders rows)).blocks ∧
      ReachedOnly (({} : State).run (fillAssemblyHeaders rows)).outsideBlock
        (({} : State).run (fillAssemblyHeaders (rows.map Row.withoutHits))).outsideBlock ∧
      (({} : State).run (fillAssemblyHeaders (rows.map Row.withoutHits))).residue?.isSome =
        (({} : State).run (fillAssemblyHeaders rows)).outsideBlock.isTouched ∧
      ∀ (counts : Nat → Nat) (allFunctions : Bool),
        blocksOfRows allFunctions (rows.mapIdx fun i row => row.withHits (counts i)) =
          blocksOfRows allFunctions rows := by
  have halike := alike_withoutHits rows
  obtain ⟨htallies, hreverted, huntouched⟩ := State.outsideBlock_eq (fillAssemblyHeaders rows)
  obtain ⟨htallies', hreverted', huntouched'⟩ :=
    State.outsideBlock_eq (fillAssemblyHeaders (rows.map Row.withoutHits))
  refine ⟨?_, ⟨?_, ?_, ?_⟩, ?_, blocksOfRows_withHits rows⟩
  · exact (List.forall₂_eq_eq_eq ▸ halike.blocks keeps_reachedOnly).symm
  · rw [htallies, htallies']
    exact halike.residue.tallies
  · rw [hreverted, hreverted']
    exact halike.residue.revertedSnippets
  · rw [huntouched']
    exact halike.residue.untouchedSnippets
  · rw [State.isSome_residue?, halike.residue.isTouched, Block.isTouched, Block.isTouched, htallies]

end Scan

end FuzzCoverage

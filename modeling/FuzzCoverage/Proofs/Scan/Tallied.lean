import FuzzCoverage.Proofs.Scan.Counting
import FuzzCoverage.Proofs.Scan.Reachable

/-! # What holds of every block of a scan

A scan opens blocks, reads lines into them and completes them, and does nothing else to them.  So what
these steps keep (`Carries`) holds of every block that a scan has at any time (`State.Holds.run`): of
the closed ones, of the one in progress, and of the residue.

One such property is that a block adds up lines, no more of them than were read
(`State.holds_sumsUp`); from it come the bounds between the tallies of a block, its snippets and its
rows (`tallied_of_run`). -/

namespace FuzzCoverage

open Scan Solidity Trace

namespace Scan

variable {P Q : Block → Prop}

/-- What a line does to blocks takes them from the property `P` to the property `Q`. -/
structure Carries (P Q : Block → Prop) : Prop where
  opened : ∀ unit : Heading, P unit.block
  marked : ∀ {b} line, P b → P (b.mark [line])
  read : ∀ {b} line, P b → Q (b.read line)
  completed : ∀ {b}, Q b → Q b.complete
  stays : ∀ {b}, P b → Q b

namespace State

/-- Every block of the scan has the property. -/
structure Holds (P : Block → Prop) (s : State) : Prop where
  closed : ∀ b ∈ s.closed, P b
  current : ∀ b, s.phase.block? = some b → P b
  residue : P s.residue

variable {s : State} {b : Block} {line : Line}

theorem Holds.imp (h : s.Holds P) (himp : ∀ b, P b → Q b) : s.Holds Q :=
  ⟨fun b hb => himp b (h.closed b hb), fun b hb => himp b (h.current b hb), himp _ h.residue⟩

theorem Holds.settle (carries : Carries P Q) (h : s.Holds P) (hb : Q b) (depth : Nat) (braces : Braces) :
    (s.settle b depth braces).Holds Q := by
  have hclosed : ∀ b ∈ s.closed, Q b := fun b hmem => carries.stays (h.closed b hmem)
  by_cases hcloses : depth + braces.opens ≤ braces.closes
  · rw [settle_of_le hcloses]
    refine ⟨?_, by simp [close, Phase.block?], carries.stays h.residue⟩
    exact List.forall_mem_append.2 ⟨hclosed, by simpa using carries.completed hb⟩
  · rw [settle_of_lt (Nat.not_le.1 hcloses)]
    exact ⟨hclosed, by simpa [Phase.block?] using hb, carries.stays h.residue⟩

theorem Holds.declare (carries : Carries P Q) (h : s.Holds P) (hb : P b) (line : Line) :
    (s.declare b line).Holds Q := by
  have hclosed : ∀ b ∈ s.closed, Q b := fun b hmem => carries.stays (h.closed b hmem)
  have hread : Q ((b.mark [line]).read line) := carries.read line (carries.marked line hb)
  rw [State.declare]
  split
  · exact h.settle carries hread 0 _
  · split
    · exact ⟨hclosed, by simp [Phase.block?], carries.stays h.residue⟩
    · exact ⟨hclosed, by simpa [Phase.block?] using hread, carries.stays h.residue⟩

theorem Holds.stepLine (carries : Carries P Q) (hs : s.Standing) (h : s.Holds P) (line : Line) :
    (s.stepLine line).Holds Q := by
  have hstart : (∀ b depth, s.phase ≠ .body b depth) → ∀ {unit}, line.heading? = some unit →
      (s.stepLine line).Holds Q := by
    intro hbody unit hunit
    rw [stepLine_start hbody hunit]
    exact h.declare carries (carries.opened unit) line
  cases hphase : s.phase with
  | outside =>
    cases hunit : line.heading? with
    | some unit => exact hstart (by simp [hphase]) hunit
    | none =>
      rw [stepLine_outside hphase hunit]
      refine ⟨fun b hmem => carries.stays (h.closed b hmem), by simp [hphase, Phase.block?], ?_⟩
      show Q (if line.isResidue then s.residue.read line else s.residue)
      split
      · exact carries.read line h.residue
      · exact carries.stays h.residue
  | heading b =>
    cases hunit : line.heading? with
    | some unit => exact hstart (by simp [hphase]) hunit
    | none =>
      rw [stepLine_heading hphase hunit]
      exact h.declare carries (h.current b (by rw [hphase]; rfl)) line
  | body b depth =>
    rw [stepLine_body hphase (hs.depth_pos b depth hphase)]
    exact h.settle carries (carries.read line (h.current b (by rw [hphase]; rfl))) depth _

/-- A property that depends on the number of lines read, after any number of them. -/
theorem Holds.runLines {P : Nat → Block → Prop} (carries : ∀ n, Carries (P n) (P (n + 1)))
    (hs : s.Standing) {n : Nat} (h : s.Holds (P n)) (lines : List Line) :
    (s.runLines lines).Holds (P (n + lines.length)) := by
  induction lines generalizing s n with
  | nil => exact h
  | cons line lines ih =>
    have hrest := ih (hs.stepLine line) (h.stepLine (carries n) hs line)
    rw [List.length_cons, Nat.add_comm lines.length, ← Nat.add_assoc]
    exact hrest

theorem Holds.run {P : Nat → Block → Prop} (carries : ∀ n, Carries (P n) (P (n + 1)))
    (houtside : P 0 Block.outside) (rows : List Row) :
    (({} : State).run rows).Holds (P rows.length) := by
  have hstart : ({} : State).Holds (P 0) := ⟨by simp, by simp [Phase.block?], houtside⟩
  have hlines := hstart.runLines carries (Standing.run []) (linesOf false rows)
  rw [Nat.zero_add, length_linesOf] at hlines
  rw [run_eq_runLines]
  exact ⟨hlines.closed, hlines.current, hlines.residue⟩

/-- What a scan returns is closed, or is what it stands in or the residue, and is completed now. -/
theorem Holds.of_mem_returned (h : s.Holds P) (completed : ∀ {b}, P b → P b.complete)
    (hmem : b ∈ s.blocks ++ s.residue?.toList) : P b := by
  rcases List.mem_append.1 hmem with hblock | houtside
  · rw [State.blocks] at hblock
    split at hblock
    · next block depth hphase =>
      rcases List.mem_append.1 hblock with hclosed | hlast
      · exact h.closed b hclosed
      · rw [List.mem_singleton.1 hlast]
        exact completed (h.current block (by rw [hphase]; rfl))
    · exact h.closed b hblock
  · rw [residue?] at houtside
    split at houtside
    · cases houtside
    · rw [List.mem_singleton.1 houtside]
      exact completed h.residue

end State

end Scan

/-! ## Blocks and the lines that were read -/

namespace Block

/-- The block adds up some lines, and no more of them than `n`. -/
def SumsUpWithin (n : Nat) (b : Block) : Prop := ∃ lines, b.SumsUp lines ∧ lines.length ≤ n

variable {b : Block} {lines : List Line}

theorem SumsUp.mark (h : b.SumsUp lines) (heading : List Line) : (b.mark heading).SumsUp lines :=
  ⟨h.rowCount, h.tallies, h.revertedSnippets, h.untouchedSnippets⟩

theorem SumsUp.complete (h : b.SumsUp lines) : b.complete.SumsUp lines :=
  ⟨h.rowCount, h.tallies, h.revertedSnippets, h.untouchedSnippets⟩

theorem SumsUp.read (h : b.SumsUp lines) (line : Line) : (b.read line).SumsUp (lines ++ [line]) where
  rowCount := by simp [Block.read, add, skipRow, h.rowCount]
  tallies := by simp [Block.read, add, skipRow, h.tallies]
  revertedSnippets := by simp [Block.read, add, skipRow, h.revertedSnippets]
  untouchedSnippets := by simp [Block.read, add, skipRow, h.untouchedSnippets]

theorem SumsUpWithin.complete {n : Nat} (h : b.SumsUpWithin n) : b.complete.SumsUpWithin n := by
  obtain ⟨lines, hlines, hle⟩ := h
  exact ⟨lines, hlines.complete, hle⟩

theorem SumsUpWithin.mono {n m : Nat} (h : b.SumsUpWithin n) (hle : n ≤ m) : b.SumsUpWithin m := by
  obtain ⟨lines, hlines, hlength⟩ := h
  exact ⟨lines, hlines, hlength.trans hle⟩

theorem SumsUpWithin.rowCount_le {n : Nat} (h : b.SumsUpWithin n) : b.rowCount ≤ n := by
  obtain ⟨lines, hlines, hlength⟩ := h
  rw [hlines.rowCount]
  exact hlength

theorem carries_sumsUpWithin (n : Nat) : Carries (SumsUpWithin n) (SumsUpWithin (n + 1)) where
  opened unit := ⟨[], ⟨rfl, rfl, rfl, rfl⟩, Nat.zero_le _⟩
  marked := by
    rintro b line ⟨lines, hlines, hle⟩
    exact ⟨lines, hlines.mark [line], hle⟩
  read := by
    rintro b line ⟨lines, hlines, hle⟩
    exact ⟨lines ++ [line], hlines.read line, by simpa using hle⟩
  completed h := h.complete
  stays h := h.mono (Nat.le_succ n)

end Block

/-- Every block of a scan adds up lines, and no more than the rows that were read. -/
theorem Scan.State.holds_sumsUp (rows : List Row) :
    (({} : State).run rows).Holds (Block.SumsUpWithin rows.length) :=
  Holds.run Block.carries_sumsUpWithin ⟨[], ⟨rfl, rfl, rfl, rfl⟩, Nat.le_refl _⟩ rows

/-! ## Tallies -/

/-- The tallies of a block fit together, and fit its rows and its snippets. -/
structure Block.Tallied (b : Block) : Prop where
  counted_le : b.tallies.covered + b.tallies.reverted + b.tallies.untouched ≤ b.rowCount
  reverted_le : b.tallies.reverted ≤ b.tallies.logicalCovered
  logicalCovered_le : b.tallies.logicalCovered ≤ b.tallies.covered + b.tallies.reverted
  logicalUntouched_le : b.tallies.logicalUntouched ≤ b.tallies.untouched
  revertedSnippets : b.revertedSnippets.length = b.tallies.reverted
  untouchedSnippets : b.untouchedSnippets.length = b.tallies.untouched

theorem Block.Tallied.withViewPure {b : Block} (h : b.Tallied) (viewPure : Bool) :
    Block.Tallied { b with viewPure := viewPure } :=
  ⟨h.counted_le, h.reverted_le, h.logicalCovered_le, h.logicalUntouched_le, h.revertedSnippets,
    h.untouchedSnippets⟩

theorem Outcome.coveredIn_logical_of_isReverted {outcome : Outcome} (h : outcome.isReverted) :
    outcome.coveredIn .logical := by
  cases outcome with
  | reverted snippet => rfl
  | _ => cases h

theorem Block.SumsUp.tallied {b : Block} {lines : List Line} (h : b.SumsUp lines) : b.Tallied where
  counted_le := by
    have hcounted := h.counted
    rw [Tallies.counted] at hcounted
    rw [hcounted, h.rowCount]
    exact List.countP_le_length
  reverted_le := by
    have hcovered : b.tallies.logicalCovered = _ := h.coveredIn .logical
    rw [hcovered, h.reverted]
    exact List.countP_mono_left fun line _ => Outcome.coveredIn_logical_of_isReverted
  logicalCovered_le := h.bounded.logicalCovered
  logicalUntouched_le := h.bounded.logicalUntouched
  revertedSnippets := h.length_revertedSnippets
  untouchedSnippets := h.length_untouchedSnippets

theorem Block.SumsUpWithin.tallied {b : Block} {n : Nat} (h : b.SumsUpWithin n) : b.Tallied := by
  obtain ⟨lines, hlines, -⟩ := h
  exact hlines.tallied

theorem Block.isFullyCovered_complete_iff (b : Block) :
    b.complete.isFullyCovered ↔
      0 < b.tallies.covered ∧ b.tallies.untouched = 0 ∧ b.tallies.reverted = 0 := by
  simp only [complete, isFullyCoveredIn, Tallies.coveredIn, Tallies.untouchedIn, Bool.and_eq_true,
    bne_iff_ne, beq_iff_eq, Nat.pos_iff_ne_zero, and_assoc]

namespace Scan

variable {rows : List Row} {b : Block}

/-- What a scan returns was completed: by its last brace, or by the end of the file. -/
theorem exists_eq_complete (h : b ∈ (({} : State).run rows).blocks ++ (({} : State).run rows).residue?.toList) :
    ∃ b', b = Block.complete b' := by
  rcases List.mem_append.1 h with hfunction | houtside
  · obtain ⟨parts, hparts⟩ := exists_divides (linesOf false rows)
    rw [(State.run_of_divides hparts).1] at hfunction
    obtain ⟨part, -, hblock⟩ := List.mem_filterMap.1 hfunction
    cases part with
    | outside line => cases hblock
    | dropped lines => cases hblock
    | definition unit heading brace body => exact ⟨_, (Option.some.inj hblock).symm⟩
  · rw [State.residue?] at houtside
    split at houtside
    · cases houtside
    · exact ⟨_, List.mem_singleton.1 houtside⟩

/-- **The tallies of every block fit together.**  At any point of a scan each block that it has — closed, in
    progress, or for what lies outside — counts each of its rows once at most, logically covered what
    was reverted and no more than ran, logically untouched no more than was untouched, and it has a
    snippet for each row that was reverted or untouched.  The same holds of what a scan returns when it
    ends there, where a block is called fully covered exactly when some row of it is covered and none is
    untouched or reverted. -/
theorem tallied_of_run (rows : List Row) :
    (∀ b ∈ (({} : State).run rows).closed ++ (({} : State).run rows).phase.block?.toList ++
        [(({} : State).run rows).residue], b.Tallied) ∧
      ∀ b ∈ (({} : State).run rows).blocks ++ (({} : State).run rows).residue?.toList,
        b.Tallied ∧
          (b.isFullyCovered ↔
            0 < b.tallies.covered ∧ b.tallies.untouched = 0 ∧ b.tallies.reverted = 0) := by
  have hsums := State.holds_sumsUp rows
  constructor
  · intro b hmem
    apply Block.SumsUpWithin.tallied
    rcases List.mem_append.1 hmem with hblock | houtside
    · rcases List.mem_append.1 hblock with hclosed | hcurrent
      · exact hsums.closed b hclosed
      · exact hsums.current b (Option.mem_toList.1 hcurrent)
    · rw [List.mem_singleton.1 houtside]
      exact hsums.residue
  · intro b hmem
    refine ⟨(hsums.of_mem_returned Block.SumsUpWithin.complete hmem).tallied, ?_⟩
    obtain ⟨b', rfl⟩ := exists_eq_complete hmem
    exact b'.isFullyCovered_complete_iff

end Scan

end FuzzCoverage

import FuzzCoverage.Proofs.Scan.Counting

/-! # Scans that go on

What a scan has found does not matter to how it goes on: `State.resume` puts what an earlier scan has
found before what a later one finds, and every row keeps to that (`State.step_resume`).  So closed
blocks are never changed, and a scan that stands outside of every block and of comments goes on like a
new one (`run_append_of_rest`).

A file returns no block for what lies outside of every function if no row of it counted.  Nothing is
lost then, in logical coverage neither (`outsideBlock_eq`). -/

namespace FuzzCoverage

open Scan Trace

/-! ## Sums of tallies and of blocks -/

instance : Add Tallies where
  add t t' :=
    { covered := t.covered + t'.covered
      reverted := t.reverted + t'.reverted
      untouched := t.untouched + t'.untouched
      logicalCovered := t.logicalCovered + t'.logicalCovered
      logicalUntouched := t.logicalUntouched + t'.logicalUntouched }

namespace Tallies

theorem add_def (t t' : Tallies) :
    t + t' =
      { covered := t.covered + t'.covered
        reverted := t.reverted + t'.reverted
        untouched := t.untouched + t'.untouched
        logicalCovered := t.logicalCovered + t'.logicalCovered
        logicalUntouched := t.logicalUntouched + t'.logicalUntouched } := rfl

theorem add_empty (t : Tallies) : t + {} = t := rfl

theorem add_add (t t' : Tallies) (outcome : Outcome) : (t + t').add outcome = t + t'.add outcome := by
  cases outcome <;> simp [add_def, add, Nat.add_assoc]

end Tallies

namespace Block

/-- The block with the rows of another one after its own. -/
def append (b b' : Block) : Block :=
  { b with
    tallies := b.tallies + b'.tallies
    revertedSnippets := b.revertedSnippets ++ b'.revertedSnippets
    untouchedSnippets := b.untouchedSnippets ++ b'.untouchedSnippets
    rowCount := b.rowCount + b'.rowCount }

theorem append_outside (b : Block) : b.append outside = b := by
  simp [append, outside, Tallies.add_empty]

theorem append_record (b b' : Block) (row : Row) (code : Text) :
    (b.append b').record row code = b.append (b'.record row code) := by
  simp [append, record, add, skipRow, Tallies.add_add, Nat.add_assoc]

end Block

/-! ## What was found before -/

namespace Scan.State

/-- The state `s` of a scan that began where an earlier one had stopped. -/
def resume (earlier s : State) : State :=
  { s with residue := earlier.residue.append s.residue, closed := earlier.closed ++ s.closed }

/-- Where the scan stands, without what it has found. -/
def standing (s : State) : State := { s with residue := Block.outside, closed := [] }

variable (earlier s : State)

theorem resume_standing : s.resume s.standing = s := by
  simp [resume, standing, Block.append_outside]

theorem standing_eq_empty (hphase : s.phase = .outside) (hcomment : s.inComment = false) :
    s.standing = {} := by
  simp [standing, hphase, hcomment]

theorem settle_resume (block : Block) (depth : Nat) (braces : Solidity.Braces) :
    (earlier.resume s).settle block depth braces = earlier.resume (s.settle block depth braces) := by
  rw [settle, settle]
  split
  · simp [close, resume]
  · rfl

theorem stepOutside_resume (row : Row) (code : Text) :
    (earlier.resume s).stepOutside row code = earlier.resume (s.stepOutside row code) := by
  rw [stepOutside, stepOutside]
  split
  · rfl
  · simp [resume, Block.append_record]

theorem stepHeading_resume (block : Block) (row : Row) (code : Text) :
    (earlier.resume s).stepHeading block row code = earlier.resume (s.stepHeading block row code) := by
  simp only [stepHeading]
  split
  · exact settle_resume earlier s _ 0 _
  · split
    · rfl
    · rfl

theorem stepCode_resume (row : Row) (code : Text) :
    (earlier.resume s).stepCode row code = earlier.resume (s.stepCode row code) := by
  -- what a row is read as is up to the phase, which holds the block that is still open
  have hphase : (earlier.resume s).phase = s.phase := rfl
  rw [stepCode, stepCode, hphase]
  cases s.phase.enter code with
  | outside => exact stepOutside_resume earlier s row code
  | heading block => exact stepHeading_resume earlier s block row code
  | body block depth => exact settle_resume earlier s _ depth _

theorem stepBlank_resume : (earlier.resume s).stepBlank = earlier.resume s.stepBlank := by
  obtain ⟨phase, inComment, residue, closed⟩ := s
  cases phase with
  | outside => rfl
  | heading block => rfl
  | body block depth => rfl

/-- A row is read alike whatever was found before. -/
theorem step_resume (row : Row) : (earlier.resume s).step row = earlier.resume (s.step row) := by
  have hcomment : (earlier.resume s).inComment = s.inComment := rfl
  rw [step, step, hcomment]
  generalize Solidity.CodeLine.of s.inComment row.source = line
  cases line.code with
  | none => exact stepBlank_resume earlier { s with inComment := line.inComment }
  | some code => exact stepCode_resume earlier { s with inComment := line.inComment } row code

theorem run_resume (rows : List Row) : (earlier.resume s).run rows = earlier.resume (s.run rows) := by
  induction rows generalizing s with
  | nil => rfl
  | cons row rows ih => rw [run_cons, step_resume, ih, run_cons]

theorem blocks_resume : (earlier.resume s).blocks = earlier.closed ++ s.blocks := by
  obtain ⟨phase, inComment, residue, closed⟩ := s
  cases phase <;> simp [blocks, resume]

/-- A run is what was found before it, and what a scan finds that stands in the same place. -/
theorem run_eq_resume (rows : List Row) : s.run rows = s.resume (s.standing.run rows) := by
  rw [← run_resume, resume_standing]

/-! ## What lies outside of every function -/

/-- The block for what lies outside of every function, with nothing in it if none is returned. -/
def outsideBlock (s : State) : Block := s.residue?.getD Block.outside

theorem outsideBlock_eq (rows : List Row) :
    (({} : State).run rows).outsideBlock.tallies = (({} : State).run rows).residue.tallies ∧
      (({} : State).run rows).outsideBlock.revertedSnippets =
        (({} : State).run rows).residue.revertedSnippets ∧
      (({} : State).run rows).outsideBlock.untouchedSnippets =
        (({} : State).run rows).residue.untouchedSnippets := by
  -- snippets and logical tallies come of lines that count, so that no counted line means none of them
  obtain ⟨lines, hlines⟩ := exists_residue_sumsUp rows
  generalize ({} : State).run rows = s at hlines
  by_cases hnone : s.residue.tallies.counted = 0
  · obtain ⟨htallies, hreverted, huntouched⟩ := hlines.eq_empty_of_counted hnone
    rw [outsideBlock, residue?, if_pos hnone]
    exact ⟨htallies.symm, hreverted.symm, huntouched.symm⟩
  · rw [outsideBlock, residue?, if_neg hnone]
    exact ⟨rfl, rfl, rfl⟩

end Scan.State

/-! ## Scans put one after another -/

namespace Scan

/-- **A scan goes on where it stands.**  The blocks that are closed stay as they are, at the front.  If
    the scan stands outside of every block and of comments, it finds in the rows after that what a new
    scan finds in them: their blocks come after those from before, and what lies outside of every
    function is added up. -/
theorem run_append_of_rest (first rest : List Row) :
    (({} : State).run first).closed <+: (({} : State).run (first ++ rest)).blocks ∧
      ((({} : State).run first).phase = .outside → (({} : State).run first).inComment = false →
        (({} : State).run (first ++ rest)).blocks =
            (({} : State).run first).blocks ++ (({} : State).run rest).blocks ∧
          (({} : State).run (first ++ rest)).outsideBlock.tallies =
            (({} : State).run first).outsideBlock.tallies +
              (({} : State).run rest).outsideBlock.tallies ∧
          (({} : State).run (first ++ rest)).outsideBlock.revertedSnippets =
            (({} : State).run first).outsideBlock.revertedSnippets ++
              (({} : State).run rest).outsideBlock.revertedSnippets ∧
          (({} : State).run (first ++ rest)).outsideBlock.untouchedSnippets =
            (({} : State).run first).outsideBlock.untouchedSnippets ++
              (({} : State).run rest).outsideBlock.untouchedSnippets) := by
  have hrun := (({} : State).run first).run_eq_resume rest
  rw [← State.run_append] at hrun
  constructor
  · rw [hrun, State.blocks_resume]
    exact List.prefix_append _ _
  · intro hphase hcomment
    -- nothing is left of where the first scan stood, so that the second one begins anew
    rw [State.standing_eq_empty _ hphase hcomment] at hrun
    have hblocks : (({} : State).run first).blocks = (({} : State).run first).closed := by
      simp [State.blocks, hphase]
    obtain ⟨htallies, hreverted, huntouched⟩ := State.outsideBlock_eq (first ++ rest)
    obtain ⟨htallies₁, hreverted₁, huntouched₁⟩ := State.outsideBlock_eq first
    obtain ⟨htallies₂, hreverted₂, huntouched₂⟩ := State.outsideBlock_eq rest
    refine ⟨?_, ?_, ?_, ?_⟩
    · rw [hrun, State.blocks_resume, hblocks]
    · rw [htallies, htallies₁, htallies₂, hrun]
      rfl
    · rw [hreverted, hreverted₁, hreverted₂, hrun]
      rfl
    · rw [huntouched, huntouched₁, huntouched₂, hrun]
      rfl

/-- A state variable, a function with a comment that has braces in it, and a declaration without a
    body. -/
def vaultRows : List Row :=
  [⟨none, .hits 1, .reverted, "uint256 total = 1;".toList⟩,
    ⟨none, .hits 1, .covered, "function pay() public \x7b /* \x7b".toList⟩,
    ⟨none, .structural, .unmarked, "\x7b */".toList⟩,
    ⟨none, .hits 0, .unmarked, "total = 2;".toList⟩, ⟨none, .structural, .unmarked, "\x7d".toList⟩,
    ⟨none, .structural, .unmarked, "function fee() external returns (uint256);".toList⟩]

/-- A modifier and a state variable behind it. -/
def ownerRows : List Row :=
  [⟨none, .hits 1, .covered, "modifier onlyOwner() \x7b _; \x7d".toList⟩,
    ⟨none, .hits 1, .covered, "uint256 fees = 3;".toList⟩]

theorem run_append_ownerRows :
    (({} : State).run vaultRows).phase = .outside ∧ (({} : State).run vaultRows).inComment = false ∧
      (({} : State).run vaultRows).blocks.length = 1 ∧
      (({} : State).run ownerRows).blocks.length = 1 ∧
      (({} : State).run (vaultRows ++ ownerRows)).blocks =
        (({} : State).run vaultRows).blocks ++ (({} : State).run ownerRows).blocks ∧
      (({} : State).run (vaultRows ++ ownerRows)).outsideBlock.tallies =
        { covered := 1, reverted := 1, logicalCovered := 2 } := by
  have hphase : (({} : State).run vaultRows).phase = .outside := by decide
  have hcomment : (({} : State).run vaultRows).inComment = false := by decide
  obtain ⟨hblocks, htallies, -⟩ := (run_append_of_rest vaultRows ownerRows).2 hphase hcomment
  refine ⟨hphase, hcomment, by decide, by decide, hblocks, ?_⟩
  rw [htallies]
  decide

end Scan

end FuzzCoverage

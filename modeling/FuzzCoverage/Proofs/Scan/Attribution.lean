import FuzzCoverage.Proofs.Scan.Division

/-! # What the rows of a file are counted for

Every row of a file belongs to one part of its division, and the blocks of a scan add up the rows of
their own parts: nothing is lost, counted twice, or counted for another block
(`scan_attributes_rows`).  The block for what lies outside adds up the lines outside of every part
that has a heading. -/

namespace FuzzCoverage

open Scan Trace

/-- The block holds what the lines add up to: a row for every line, and for each of its tallies and
    lists of snippets what the rule for rows gives, line by line. -/
structure Block.SumsUp (b : Block) (lines : List Line) : Prop where
  rowCount : b.rowCount = lines.length
  tallies : b.tallies = (lines.map Line.outcome).foldl Tallies.add {}
  revertedSnippets : b.revertedSnippets = lines.flatMap (·.outcome.revertedSnippets)
  untouchedSnippets : b.untouchedSnippets = lines.flatMap (·.outcome.untouchedSnippets)

namespace Block

theorem readAll_rowCount (b : Block) (lines : List Line) :
    (b.readAll lines).rowCount = b.rowCount + lines.length := by
  induction lines generalizing b with
  | nil => rfl
  | cons line lines ih =>
    have hread : (b.read line).rowCount = b.rowCount + 1 := rfl
    rw [readAll_cons, ih, hread, List.length_cons]
    omega

theorem readAll_tallies (b : Block) (lines : List Line) :
    (b.readAll lines).tallies = (lines.map Line.outcome).foldl Tallies.add b.tallies := by
  induction lines generalizing b with
  | nil => rfl
  | cons line lines ih => exact ih (b.read line)

theorem readAll_revertedSnippets (b : Block) (lines : List Line) :
    (b.readAll lines).revertedSnippets =
      b.revertedSnippets ++ lines.flatMap (·.outcome.revertedSnippets) := by
  induction lines generalizing b with
  | nil => simp
  | cons line lines ih => simp [ih, read, add, skipRow]

theorem readAll_untouchedSnippets (b : Block) (lines : List Line) :
    (b.readAll lines).untouchedSnippets =
      b.untouchedSnippets ++ lines.flatMap (·.outcome.untouchedSnippets) := by
  induction lines generalizing b with
  | nil => simp
  | cons line lines ih => simp [ih, read, add, skipRow]

theorem sumsUp_readAll {b : Block} (h : b.SumsUp []) (lines : List Line) :
    (b.readAll lines).complete.SumsUp lines where
  rowCount := by simp [complete, readAll_rowCount, h.rowCount]
  tallies := by
    have hzero : b.tallies = {} := h.tallies
    simp [complete, readAll_tallies, hzero]
  revertedSnippets := by simp [complete, readAll_revertedSnippets, h.revertedSnippets]
  untouchedSnippets := by simp [complete, readAll_untouchedSnippets, h.untouchedSnippets]

end Block

namespace Scan

theorem definitionBlock_sumsUp (unit : Solidity.Heading) (heading : List Line) (brace : Line)
    (body : List Line) :
    (definitionBlock unit heading brace body).complete.SumsUp (heading ++ brace :: body) :=
  Block.sumsUp_readAll ⟨rfl, rfl, rfl, rfl⟩ _

theorem Part.block?_sumsUp {part : Part} {block : Block} (h : part.block? = some block) :
    block.SumsUp part.lines := by
  cases part with
  | outside line => simp [Part.block?] at h
  | dropped lines => simp [Part.block?] at h
  | definition unit heading brace body =>
    simp only [Part.block?, Option.some.injEq] at h
    subst h
    exact definitionBlock_sumsUp unit heading brace body

theorem State.residue?_sumsUp {s : State} {block : Block} {lines : List Line}
    (hs : s.residue = Block.outside.readAll lines) (h : s.residue? = some block) :
    block.SumsUp lines := by
  unfold State.residue? at h
  split at h
  · cases h
  · cases h
    rw [hs]
    exact Block.sumsUp_readAll ⟨rfl, rfl, rfl, rfl⟩ lines

/-- **Every row of a file is counted for one part of it.**  The rows are the rows of the parts, one
    part after another; the blocks that a scan returns are those of the definitions among the parts,
    in order, and each adds up exactly the lines of its own part; the block for what lies outside,
    if there is one, adds up the lines outside of all parts with a heading, as far as they have code
    and are no unmarked rows of the legacy layout. -/
theorem scan_attributes_rows (rows : List Row) :
    ∃ parts, Divides (linesOf false rows) parts ∧
      (parts.flatMap Part.lines).map Line.row = rows ∧
      (({} : State).run rows).blocks = parts.filterMap Part.block? ∧
      (∀ part ∈ parts, ∀ block, part.block? = some block → block.SumsUp part.lines) ∧
      ∀ block, (({} : State).run rows).residue? = some block →
        block.SumsUp (parts.flatMap Part.residue) := by
  obtain ⟨parts, hparts⟩ := exists_divides (linesOf false rows)
  have hstart : ({} : State).AtPart (linesOf false rows) := Or.inl rfl
  obtain ⟨hblocks, hresidue⟩ := State.runLines_of_divides hparts hstart
  refine ⟨parts, hparts, ?_, ?_, ?_, ?_⟩
  · rw [hparts.flatMap_lines, linesOf_map_row]
  · rw [State.run_eq_runLines]
    exact hblocks
  · intro part _ block hblock
    exact Part.block?_sumsUp hblock
  · intro block hblock
    rw [State.run_eq_runLines] at hblock
    exact State.residue?_sumsUp hresidue hblock

end Scan

end FuzzCoverage

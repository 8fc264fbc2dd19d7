import FuzzCoverage.Proofs.Scan.Counting
import FuzzCoverage.Proofs.Scan.Surroundings
import FuzzCoverage.Proofs.Solidity.StringLiteral

/-! # Rows without a counter

The compiler puts no counter on a line that cannot run, and a scan counts such a row for nothing,
whatever else the row holds.  The one exception are the headers of assembly blocks, which take the
outcome of the row after them.

What is taken for a header is a source that begins with the letters of `assembly` and has a brace
somewhere, and that is more than the headers of the language (`opensAssembly`).  So the rule holds for a
row if and only if it is a header or is not taken for one (`addsNothing_iff`). -/

namespace FuzzCoverage

open Scan Solidity Text Trace

/-! ## Headers of assembly blocks in the language -/

namespace Solidity

/-- What follows a string literal, if a text begins with one. -/
def afterLiteral? (t : Text) : Option Text :=
  match t.trimStart with
  | '"' :: rest => (cut? '"' rest).map (·.2)
  | _ => none

/-- Whether a source begins with the header of an assembly block: the word, which a dialect and flags in
    parentheses may stand after, and an opening brace. -/
def opensAssembly (source : Text) : Bool :=
  (source.after? "assembly".toList).any fun rest =>
    let rest := (afterLiteral? rest).getD rest
    let rest := (afterParentheses? rest).getD rest
    rest.trimStart.head? = some '\x7b'

example : opensAssembly "assembly (\"memory-safe\") \x7b".toList ∧ opensAssembly "assembly\x7b".toList ∧
    ¬ opensAssembly "assemblyOf = S(\x7b".toList := by decide

end Solidity

/-! ## Lines that a block counts -/

theorem Outcome.eq_uncounted {outcome : Outcome} (h : outcome.isCounted = false) : outcome = .uncounted := by
  cases outcome with
  | uncounted => rfl
  | _ => cases h

/-- The tallies and the snippets of the block are what the lines add up to. -/
structure Block.Counts (b : Block) (lines : List Line) : Prop where
  tallies : b.tallies = (lines.map Line.outcome).foldl Tallies.add {}
  revertedSnippets : b.revertedSnippets = lines.flatMap (·.outcome.revertedSnippets)
  untouchedSnippets : b.untouchedSnippets = lines.flatMap (·.outcome.untouchedSnippets)

namespace Block

variable {b : Block} {lines first rest : List Line} {line : Line}

theorem SumsUp.counts (h : b.SumsUp lines) : b.Counts lines :=
  ⟨h.tallies, h.revertedSnippets, h.untouchedSnippets⟩

theorem Counts.counted (h : b.Counts lines) : b.tallies.counted = lines.countP (·.outcome.isCounted) := by
  rw [h.tallies, Tallies.foldl_add Tallies.counted_add, List.countP_map]
  exact Nat.zero_add _

/-- A line can be left out of the count exactly if it does not count. -/
theorem Counts.leaveOut_iff (h : b.Counts (first ++ line :: rest)) :
    b.Counts (first ++ rest) ↔ line.outcome = .uncounted := by
  constructor
  · intro hless
    have hall := h.counted
    rw [hless.counted, List.countP_append, List.countP_append, Tallies.countP_cons_toNat] at hall
    cases hcounted : line.outcome.isCounted with
    | false => exact Outcome.eq_uncounted hcounted
    | true =>
      rw [hcounted, Bool.toNat_true] at hall
      omega
  · intro hnone
    obtain ⟨htallies, hreverted, huntouched⟩ := h
    refine ⟨?_, ?_, ?_⟩
    · rw [htallies]
      simp only [List.map_append, List.map_cons, List.foldl_append, List.foldl_cons, hnone]
      rfl
    · rw [hreverted]
      simp only [List.flatMap_append, List.flatMap_cons, hnone]
      rfl
    · rw [huntouched]
      simp only [List.flatMap_append, List.flatMap_cons, hnone]
      rfl

end Block

namespace Scan

/-! ## Rows in their files -/

/-- A row is read with the outcome that it takes from the row after it, or with its own. -/
theorem exists_filledLine {rows : List Row} {i : Nat} {row : Row} (h : rows[i]? = some row)
    (inComment : Bool) :
    ∃ inComment', (linesOf inComment (fillAssemblyHeaders rows))[i]? =
      some (filledLine inComment' row rows[i + 1]?) := by
  induction rows generalizing inComment i with
  | nil => cases h
  | cons first rows ih =>
    rw [linesOf_fillAssemblyHeaders_cons]
    cases i with
    | zero =>
      obtain rfl : first = row := Option.some.inj h
      exact ⟨inComment, by rw [List.head?_eq_getElem?]; rfl⟩
    | succ i => exact ih h _

/-- The row at a place of a file adds nothing to the tallies and the snippets of any block that is
    returned: each of them is what its other lines add up to. -/
def AddsNothing (allFunctions : Bool) (rows : List Row) (i : Nat) : Prop :=
  ∀ line, (linesOf false (fillAssemblyHeaders rows))[i]? = some line →
    ∀ block ∈ blocksOfRows allFunctions rows, ∀ first rest, OwnLines rows block (first ++ line :: rest) →
      block.Counts (first ++ rest)

variable {allFunctions : Bool} {rows : List Row} {i : Nat} {row : Row} {line : Line} {block : Block}

theorem addsNothing_of_structural (structural : row.isActive = false)
    (hheader : isAssemblyHeader row = false) (hrow : rows[i]? = some row) : AddsNothing allFunctions rows i := by
  intro line hline block _ first rest hown
  obtain ⟨inComment, hfilled⟩ := exists_filledLine hrow false
  obtain rfl : line = filledLine inComment row rows[i + 1]? := Option.some.inj (hline.symm.trans hfilled)
  exact hown.sumsUp.counts.leaveOut_iff.2 (outcome_filledLine structural hheader _ _)

/-- A block that counts more than the other lines of its file do has counted the line. -/
theorem not_addsNothing (hline : (linesOf false (fillAssemblyHeaders rows))[i]? = some line)
    (hblock : block ∈ blocksOfRows allFunctions rows)
    (hfew : ((linesOf false (fillAssemblyHeaders rows)).filter (· ≠ line)).countP (·.outcome.isCounted) <
      block.tallies.counted) : ¬ AddsNothing allFunctions rows i := by
  intro hadds
  obtain ⟨own, hown⟩ := exists_ownLines hblock
  have hcounts := hown.sumsUp.counts
  have hothers : ∀ other ∈ own, other.outcome.isCounted → other ≠ line := by
    rintro other hmem hcounted rfl
    obtain ⟨first, rest, rfl⟩ := List.append_of_mem hmem
    have hnone := hcounts.leaveOut_iff.1 (hadds other hline block hblock first rest hown)
    rw [hnone] at hcounted
    cases hcounted
  have hsame : own.countP (·.outcome.isCounted) =
      (own.filter (· ≠ line)).countP (·.outcome.isCounted) := by
    rw [List.countP_filter]
    refine List.countP_congr fun other hmem => ?_
    simpa using hothers other hmem
  have hle := (hown.sublist.filter (· ≠ line)).countP_le (p := (·.outcome.isCounted))
  rw [hcounts.counted, hsame] at hfew
  omega

/-! ## A row that is taken for a header -/

theorem exists_code_of_isAssemblyHeader (h : isAssemblyHeader row) :
    ∃ code, (CodeLine.of false row.source).code = some code ∧ isLoneBrace code = false := by
  obtain ⟨rest, hsource⟩ := (isAssemblyHeader_iff.1 h).word
  have hhead : row.source.head? = some 'a' := by
    rw [← hsource]
    rfl
  have hletter : isBlank 'a' = false := by decide
  have hstrip : (strip .code row.source).text.head? = some 'a' := by
    rw [head?_strip_code (by rw [hhead]; decide), hhead]
  have hcode : (strip .code row.source).text.trim.head? = some 'a' := head?_trim hstrip hletter
  refine ⟨(strip .code row.source).text.trim, ?_, ?_⟩
  · cases htrim : (strip .code row.source).text.trim with
    | nil =>
      rw [htrim] at hcode
      cases hcode
    | cons c text => simp [CodeLine.of, htrim]
  · refine Bool.eq_false_iff.2 fun hlone => ?_
    have hbrace := of_decide_eq_true hlone
    rw [trim_trim] at hbrace
    rw [hbrace] at hcode
    cases hcode

theorem exists_outcome_eq_covered (h : isAssemblyHeader row) {next : Row} (active : next.isActive)
    (marker : next.marker = .covered) :
    ∃ logical, (filledLine false row (some next)).outcome = .covered logical := by
  obtain ⟨code, hcode, hlone⟩ := exists_code_of_isAssemblyHeader h
  have hfill : fillHeader row (some next) = row.withOutcomeOf next := if_pos h
  have hactive : (row.withOutcomeOf next).isActive = true := active
  have hmarker : (row.withOutcomeOf next).marker = .covered := marker
  refine ⟨isLogical code, ?_⟩
  rw [filledLine, Line.outcome, hcode, hfill, Option.map_some, Option.getD_some, Outcome.of, hactive, hlone,
    hmarker]
  rfl

/-- In the body of a function no row counts but the one that is put there. -/
theorem countP_fileInBody (inComment : Bool) (row next : Row) :
    ((linesOf false (fillAssemblyHeaders (fileInBody inComment row next))).filter
      (· ≠ filledLine inComment row (some next))).countP (·.outcome.isCounted) = 0 := by
  rw [List.countP_eq_zero, linesOf_fileInBody]
  intro other hother
  obtain ⟨hmem, hne⟩ := List.mem_filter.1 hother
  rcases List.mem_append.1 hmem with hopening | hrest
  · rw [outcome_opening hopening]
    exact Bool.false_ne_true
  · simp only [List.mem_cons, List.not_mem_nil, or_false] at hrest
    rcases hrest with rfl | rfl
    · simp at hne
    · exact Bool.false_ne_true

/-- What is taken for a header counts in the body of a function before a row that was covered. -/
theorem exists_not_addsNothing (h : isAssemblyHeader row) :
    ∃ rows i, rows[i]? = some row ∧ ¬ AddsNothing true rows i := by
  let next : Row := ⟨none, .hits 1, .covered, []⟩
  have hactive : next.isActive := rfl
  obtain ⟨logical, houtcome⟩ := exists_outcome_eq_covered h hactive rfl
  obtain ⟨block, hblocks, hfigures⟩ := List.map_eq_singleton_iff.1 (figuresOf_fileInBody false row next)
  have htallies : block.tallies = (filledLine false row (some next)).tallies :=
    congrArg Figures.tallies hfigures
  have hmem : block ∈ blocksOfRows true (fileInBody false row next) :=
    hblocks ▸ List.mem_singleton_self block
  have hline : (linesOf false (fillAssemblyHeaders (fileInBody false row next)))[2]? =
      some (filledLine false row (some next)) := by
    rw [linesOf_fileInBody]
    rfl
  refine ⟨fileInBody false row next, 2, rfl, not_addsNothing hline hmem ?_⟩
  rw [countP_fileInBody, htallies, Line.tallies, houtcome]
  exact Nat.one_pos

/-- **A row without a counter counts for nothing**, in any file and whatever its marker and its text
    are, if and only if it is a header of an assembly block or is not taken for one. -/
theorem addsNothing_iff {row : Row} (structural : row.instrumentation = .structural) :
    (opensAssembly row.source = false →
        ∀ allFunctions rows i, rows[i]? = some row → AddsNothing allFunctions rows i) ↔
      (isAssemblyHeader row → opensAssembly row.source) := by
  have hinactive : row.isActive = false := by
    rw [Row.isActive, structural]
    rfl
  constructor
  · intro hadds hheader
    refine Bool.eq_true_of_not_eq_false fun hopens => ?_
    obtain ⟨rows, i, hrow, hnot⟩ := exists_not_addsNothing hheader
    exact hnot (hadds hopens true rows i hrow)
  · intro hknown hopens allFunctions rows i hrow
    refine addsNothing_of_structural hinactive (Bool.eq_false_iff.2 fun hheader => ?_) hrow
    rw [hknown hheader] at hopens
    cases hopens

theorem addsNothing_feeDeclaration :
    (⟨none, .structural, .reverted, "uint256 fee;".toList⟩ : Row).instrumentation = .structural ∧
      opensAssembly "uint256 fee;".toList = false ∧
      ∀ allFunctions rows i, rows[i]? = some ⟨none, .structural, .reverted, "uint256 fee;".toList⟩ →
        AddsNothing allFunctions rows i := by
  have hopens : opensAssembly "uint256 fee;".toList = false := by decide
  exact ⟨rfl, hopens, (addsNothing_iff rfl).2 (by decide) hopens⟩

/-- A function that sets a variable with a name like the word for assembly blocks. -/
def assemblyOfRows : List Row :=
  [⟨none, .hits 1, .covered, "function f() public \x7b".toList⟩,
    ⟨none, .structural, .unmarked, "assemblyOf = S(\x7b".toList⟩, ⟨none, .hits 1, .covered, "a: 1".toList⟩,
    ⟨none, .structural, .unmarked, "\x7d);".toList⟩, ⟨none, .structural, .unmarked, "\x7d".toList⟩]

/-- The row with the variable counts as a covered line, and there are two others. -/
theorem not_addsNothing_assemblyOfRows :
    assemblyOfRows[1]? = some ⟨none, .structural, .unmarked, "assemblyOf = S(\x7b".toList⟩ ∧
      opensAssembly "assemblyOf = S(\x7b".toList = false ∧ ¬ AddsNothing true assemblyOfRows 1 := by
  refine ⟨rfl, by decide, ?_⟩
  obtain ⟨block, hblocks⟩ := List.length_eq_one_iff.1
    (show (blocksOfRows true assemblyOfRows).length = 1 by decide)
  have hcounted : (blocksOfRows true assemblyOfRows).map (·.tallies.counted) = [3] := by decide
  rw [hblocks] at hcounted
  have hblock : block.tallies.counted = 3 := (List.cons.inj hcounted).1
  have hmem : block ∈ blocksOfRows true assemblyOfRows := hblocks ▸ List.mem_singleton_self block
  have hline : (linesOf false (fillAssemblyHeaders assemblyOfRows))[1]? =
      some (filledLine false ⟨none, .structural, .unmarked, "assemblyOf = S(\x7b".toList⟩
        assemblyOfRows[2]?) := rfl
  refine not_addsNothing hline hmem ?_
  rw [hblock]
  decide

end Scan

end FuzzCoverage

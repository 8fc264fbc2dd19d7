import FuzzCoverage.Proofs.Scan.Counting
import FuzzCoverage.Proofs.Scan.SignatureBraces
import FuzzCoverage.Proofs.Solidity.FirstCode

/-! # Statements that no run reached

A statement with a counter that no run reached shows in the tallies of its function, unless its row
is taken for the scaffolding of a declaration or prints for debugging (`untouched_pos_of_statement`).
So no function passes for covered because of the rows that it does not count.

Of the beginnings by which a row is taken for a comment only the star ever stands at the beginning
of code: comments have been taken out before (`CodeLine.looksLikeComment_eq`). -/

namespace FuzzCoverage

open Solidity Trace

namespace Solidity

open Text

/-! ## Statements and scaffolding -/

/-- Whether a character only puts code into groups or ends it. -/
def isGrouping (c : Char) : Bool := isBlank c || "\x7b\x7d();".toList.contains c

/-- Whether code holds more than brackets, semicolons and the word `else`. -/
def holdsStatement (code : Text) : Bool :=
  (code.splitOnP isGrouping).any fun piece => piece != [] && piece != "else".toList

/-- Whether a line begins or ends like a part of a signature, or names a visibility.  A star at the
    beginning counts as well, since it stands there in comments over several lines. -/
def isScaffolding (code : Text) : Bool :=
  "function".toList.isPrefixOf code || "*".toList.isPrefixOf code || isSignatureTail code ||
    code.mentions visibilityWords

theorem holdsStatement_append_of_isGrouping {c : Char} (h : isGrouping c) (before after : Text)
    (hafter : holdsStatement after) : holdsStatement (before ++ c :: after) := by
  rw [holdsStatement, List.splitOnP_append_cons before after h, List.any_append, Bool.or_eq_true]
  exact Or.inr hafter

theorem not_mem_punctuationLines {code : Text} (h : holdsStatement (emptyStrings none code)) :
    code ∉ punctuationLines := by
  have hpunctuation : ∀ code ∈ punctuationLines, holdsStatement (emptyStrings none code) = false := by
    decide
  intro hmem
  rw [hpunctuation code hmem] at h
  cases h

theorem mayBeUntouched_eq {inComment : Bool} {line code : Text}
    (hcode : (CodeLine.of inComment line).code = some code) (hpunctuation : code ∉ punctuationLines) :
    mayBeUntouched code = !(isScaffolding code || isDebugPrint code) := by
  obtain ⟨htrim, hcomment⟩ := CodeLine.looksLikeComment_eq hcode
  have hne : code ≠ [] := CodeLine.ne_nil_of_code hcode
  rw [mayBeUntouched, htrim, hcomment, isScaffolding]
  cases "function".toList.isPrefixOf code <;> cases "*".toList.isPrefixOf code <;>
    cases isSignatureTail code <;> cases code.mentions visibilityWords <;> simp [hne, hpunctuation]

theorem mayBeUntouched_of_holdsStatement {inComment : Bool} {line code : Text}
    (hcode : (CodeLine.of inComment line).code = some code)
    (hstatement : holdsStatement (emptyStrings none code)) (hscaffolding : isScaffolding code = false)
    (hprint : isDebugPrint code = false) : mayBeUntouched code := by
  rw [mayBeUntouched_eq hcode (not_mem_punctuationLines hstatement), hscaffolding, hprint]
  rfl

theorem not_isScaffolding_of_mayBeUntouched {inComment : Bool} {line code : Text}
    (hcode : (CodeLine.of inComment line).code = some code) (h : mayBeUntouched code) :
    isScaffolding code = false ∧ isDebugPrint code = false := by
  obtain ⟨htrim, hcomment⟩ := CodeLine.looksLikeComment_eq hcode
  simp only [mayBeUntouched, htrim, hcomment, Bool.and_eq_true, Bool.not_eq_true'] at h
  obtain ⟨⟨⟨⟨⟨⟨-, hfunction⟩, -⟩, htail⟩, hvisibility⟩, hstar⟩, hprint⟩ := h
  refine ⟨?_, hprint⟩
  rw [isScaffolding, hfunction, hstar, htail, hvisibility]
  rfl

end Solidity

/-! ## Untouched lines -/

theorem Outcome.untouchedIn_standard_iff {outcome : Outcome} :
    outcome.untouchedIn .standard ↔ ∃ snippet logical, outcome = .untouched logical snippet := by
  cases outcome <;> simp [untouchedIn]

theorem Block.SumsUp.untouched_pos_iff {b : Block} {lines : List Scan.Line} (h : b.SumsUp lines) :
    0 < b.tallies.untouched ↔
      ∃ line ∈ lines, ∃ snippet logical, line.outcome = .untouched logical snippet := by
  have huntouched : b.tallies.untouched = _ := h.untouchedIn .standard
  rw [huntouched, List.countP_pos_iff]
  simp only [Outcome.untouchedIn_standard_iff]

namespace Scan

/-! ## The rows of a body -/

/-- The lines of a definition that hold a statement of its body.  On the line with the first opening
    brace the body is what follows that. -/
def Part.statements : Part → List Line
  | .definition _ _ brace body =>
    [brace].filter (fun line => (Text.cut? '\x7b' (textOf [line])).any fun (_, after) => holdsStatement after)
      ++ body.filter fun line => holdsStatement (textOf [line])
  | _ => []

def Line.isUnreached (line : Line) : Bool := line.row.isActive && line.row.marker = .unmarked

/-- Whether a line is left out of the untouched ones whatever it does. -/
def Line.isExempt (line : Line) : Bool := line.code.any fun code => isScaffolding code || isDebugPrint code

theorem Part.mem_lines_of_mem_statements {part : Part} {line : Line} (h : line ∈ part.statements) :
    line ∈ part.lines ∧ holdsStatement (textOf [line]) := by
  cases part with
  | outside line => cases h
  | dropped lines => cases h
  | definition unit heading brace body =>
    rcases List.mem_append.1 h with hbrace | hbody
    · obtain ⟨hmem, hafter⟩ := List.mem_filter.1 hbrace
      obtain rfl := List.mem_singleton.1 hmem
      obtain ⟨⟨before, after⟩, hcut, hafter⟩ := (Option.any_eq_true _ _).1 hafter
      refine ⟨by simp [Part.lines], ?_⟩
      rw [← Text.append_of_cut? hcut]
      exact holdsStatement_append_of_isGrouping (by decide) before after hafter
    · obtain ⟨hmem, hstatement⟩ := List.mem_filter.1 hbody
      exact ⟨by simp [Part.lines, hmem], hstatement⟩

theorem exists_codeLine_of_mem_linesOf {inComment : Bool} {rows : List Row} {line : Line}
    (h : line ∈ linesOf inComment rows) :
    ∃ inComment, line.code = (CodeLine.of inComment line.row.source).code := by
  induction rows generalizing inComment with
  | nil => cases h
  | cons row rows ih =>
    rcases List.mem_cons.1 h with rfl | h
    · exact ⟨inComment, rfl⟩
    · exact ih h

theorem exists_outcome_untouched {inComment : Bool} {rows : List Row} {line : Line}
    (hline : line ∈ linesOf inComment rows) (hstatement : holdsStatement (textOf [line]))
    (hunreached : line.isUnreached) (hexempt : line.isExempt = false) :
    ∃ logical, line.outcome = .untouched logical line.row.source := by
  obtain ⟨inComment, hof⟩ := exists_codeLine_of_mem_linesOf hline
  cases hcode : line.code with
  | none => simp [textOf, hcode, holdsStatement] at hstatement
  | some code =>
    rw [hcode] at hof
    simp only [Line.isExempt, hcode, Option.any_some, Bool.or_eq_false_iff] at hexempt
    simp only [Line.isUnreached, Bool.and_eq_true, decide_eq_true_eq] at hunreached
    have hstatement : holdsStatement (emptyStrings none code) := by simpa [textOf, hcode] using hstatement
    -- a lone brace is one of the rows of punctuation, and those hold no statement
    have hmay := mayBeUntouched_of_holdsStatement hof.symm hstatement hexempt.1 hexempt.2
    have hlone : isLoneBrace code = false := by
      rw [isLoneBrace, (CodeLine.looksLikeComment_eq hof.symm).1]
      refine decide_eq_false fun heq => ?_
      exact not_mem_punctuationLines hstatement (heq ▸ by decide)
    refine ⟨isLogical code, ?_⟩
    simp [Line.outcome, hcode, Outcome.of, hunreached.1, hunreached.2, hlone, hmay]

theorem isUnreached_of_outcome {inComment : Bool} {rows : List Row} {line : Line}
    (hline : line ∈ linesOf inComment rows) {logical : Bool} {snippet : Text}
    (houtcome : line.outcome = .untouched logical snippet) :
    line.isUnreached ∧ line.isExempt = false := by
  obtain ⟨inComment, hof⟩ := exists_codeLine_of_mem_linesOf hline
  cases hcode : line.code with
  | none => simp [Line.outcome, hcode] at houtcome
  | some code =>
    rw [hcode] at hof
    simp only [Line.outcome, hcode, Option.map_some, Option.getD_some, Outcome.of] at houtcome
    split at houtcome
    · cases houtcome
    · next hcounts =>
      split at houtcome
      · cases houtcome
      · cases houtcome
      · next hmarker =>
        split at houtcome
        · next hmay =>
          obtain ⟨hscaffolding, hprint⟩ := not_isScaffolding_of_mayBeUntouched hof.symm hmay
          simp only [Bool.or_eq_true, Bool.not_eq_true', not_or, Bool.not_eq_false] at hcounts
          simp [Line.isUnreached, Line.isExempt, hcode, hcounts.1, hmarker, hscaffolding, hprint]
        · cases houtcome

/-- **No statement that a run could have reached is passed over.**  The blocks of a file are those of
    the definitions in it.  If a definition has a row with a counter, a statement of the body on it
    and no mark, and the row neither looks like the scaffolding of a declaration nor prints for
    debugging, then its block has untouched lines, however its other rows are marked; and only such
    rows give it any. -/
theorem untouched_pos_of_statement (allFunctions : Bool) (rows : List Row) :
    ∃ parts, Divides (linesOf false (fillAssemblyHeaders rows)) parts ∧
      blocksOfRows allFunctions rows =
        withoutViewPure allFunctions (parts.filterMap Part.block?) ++
          (({} : State).run (fillAssemblyHeaders rows)).residue?.toList ∧
      ∀ part ∈ parts, ∀ block, part.block? = some block →
        ((∃ line ∈ part.statements, line.isUnreached ∧ line.isExempt = false) →
          0 < block.tallies.untouched) ∧
        (0 < block.tallies.untouched →
          ∃ line ∈ part.lines, line.isUnreached ∧ line.isExempt = false) := by
  obtain ⟨parts, hparts⟩ := exists_divides (linesOf false (fillAssemblyHeaders rows))
  have hstart : ({} : State).AtPart (linesOf false (fillAssemblyHeaders rows)) := Or.inl rfl
  have hblocks := (State.runLines_of_divides hparts hstart).1
  have hlines : ∀ part ∈ parts, ∀ line ∈ part.lines, line ∈ linesOf false (fillAssemblyHeaders rows) := by
    intro part hpart line hline
    rw [← hparts.flatMap_lines]
    exact List.mem_flatMap.2 ⟨part, hpart, hline⟩
  refine ⟨parts, hparts, ?_, ?_⟩
  · rw [blocksOfRows, State.run_eq_runLines]
    exact congrArg (withoutViewPure allFunctions · ++ _) hblocks
  · intro part hpart block hblock
    rw [(Part.block?_sumsUp hblock).untouched_pos_iff]
    constructor
    · rintro ⟨line, hstatements, hunreached, hexempt⟩
      obtain ⟨hline, hstatement⟩ := Part.mem_lines_of_mem_statements hstatements
      obtain ⟨logical, houtcome⟩ :=
        exists_outcome_untouched (hlines part hpart line hline) hstatement hunreached hexempt
      exact ⟨line, hline, line.row.source, logical, houtcome⟩
    · rintro ⟨line, hline, snippet, logical, houtcome⟩
      exact ⟨line, hline, isUnreached_of_outcome (hlines part hpart line hline) houtcome⟩

/-- A function whose second statement no run reached. -/
def abandonedRows : List Row :=
  [⟨none, .hits 3, .covered, "function pause() external \x7b".toList⟩,
    ⟨none, .hits 3, .covered, "if (paused) return;".toList⟩,
    ⟨none, .hits 0, .unmarked, "paused = true;".toList⟩,
    ⟨none, .structural, .unmarked, "\x7d".toList⟩]

/-- The function, with the row that begins it. -/
def abandonedPart : Part :=
  .definition ⟨.function, "pause".toList⟩ []
    ⟨⟨none, .hits 3, .covered, "function pause() external \x7b".toList⟩,
      some "function pause() external \x7b".toList⟩
    (linesOf false abandonedRows).tail

/-- It is all of the file, and it has an untouched line though two of its rows are marked. -/
theorem untouched_pos_abandonedRows :
    ∃ block, Divides (linesOf false (fillAssemblyHeaders abandonedRows)) [abandonedPart] ∧
      abandonedPart.block? = some block ∧ blocksOfRows true abandonedRows = [block] ∧
      (∃ line ∈ abandonedPart.statements, line.isUnreached ∧ line.isExempt = false) ∧
      block.tallies.covered = 2 ∧ 0 < block.tallies.untouched := by
  have hdivides : Divides (linesOf false (fillAssemblyHeaders abandonedRows)) [abandonedPart] :=
    divides_definition (by decide) (by decide) (staysOpen_iff.2 (by decide))
  have hunreached : ∃ line ∈ abandonedPart.statements, line.isUnreached ∧ line.isExempt = false := by
    decide
  obtain ⟨parts, hparts, hblocks, hrule⟩ := untouched_pos_of_statement true abandonedRows
  obtain rfl := hparts.unique hdivides
  obtain ⟨hpos, -⟩ := hrule abandonedPart List.mem_cons_self _ rfl
  exact ⟨_, hdivides, rfl, hblocks, hunreached, by decide, hpos hunreached⟩

/-- A function that no run reached, whose only statement prints for debugging. -/
def printRows : List Row :=
  [⟨none, .hits 1, .unmarked, "function f() public \x7b".toList⟩,
    ⟨none, .hits 0, .unmarked, "console.log(\"x\");".toList⟩,
    ⟨none, .structural, .unmarked, "\x7d".toList⟩]

/-- No line of the function is marked, the one with its statement has a counter, and none is
    untouched; nor is one in a function that stands on one row, whose beginning is scaffolding. -/
theorem untouched_eq_zero_of_debugPrint :
    (∃ part block, Divides (linesOf false (fillAssemblyHeaders printRows)) [part] ∧
      part.block? = some block ∧ blocksOfRows true printRows = [block] ∧
      (∀ line ∈ part.lines, line.row.marker = .unmarked) ∧
      (∃ line ∈ part.statements, line.row.isActive) ∧ block.tallies.untouched = 0) ∧
    (blocksOfRows true [⟨none, .hits 0, .unmarked, "function f() public \x7b x = 1; \x7d".toList⟩]).map
      (·.tallies.untouched) = [0] := by
  have hdivides : Divides (linesOf false (fillAssemblyHeaders printRows))
      [.definition ⟨.function, "f".toList⟩ []
        ⟨⟨none, .hits 1, .unmarked, "function f() public \x7b".toList⟩,
          some "function f() public \x7b".toList⟩
        (linesOf false (fillAssemblyHeaders printRows)).tail] :=
    divides_definition (by decide) (by decide) (staysOpen_iff.2 (by decide))
  exact ⟨⟨_, _, hdivides, rfl, by decide, by decide, by decide, by decide⟩, by decide⟩

end Scan

end FuzzCoverage

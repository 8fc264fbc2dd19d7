import FuzzCoverage.Proofs.Scan.Surroundings

/-! # What comments do to the figures of a file

A scan reads the code that is left of a row when its comments are gone, and `SameCode` says of two
files that they have the same columns and the same code, row by row.  But the headers of assembly blocks
are looked for in the source with its comments, so a comment can make a row without a counter count, or
keep it from counting (`countsAsHeader`).

That is all that comments can do: the figures are the same when the same rows count as headers, and
where they do not, some file shows it (`figuresOf_eq_of_sameCode`). -/

namespace FuzzCoverage

open Solidity Trace

/-- Rows of which the scan knows the same before it looks at their sources. -/
structure Trace.Row.SameColumns (row row' : Row) : Prop where
  instrumentation : row.instrumentation = row'.instrumentation
  marker : row.marker = row'.marker

theorem Trace.Row.SameColumns.isActive {row row' : Row} (h : row.SameColumns row') :
    row.isActive = row'.isActive := congrArg Instrumentation.isActive h.instrumentation

namespace Scan

/-- Two lists of rows have the same columns and the same code, row by row, where the first row of each
    begins inside of a block comment or does not. -/
inductive SameCode : Bool → Bool → List Row → List Row → Prop
  | nil {inComment inComment' : Bool} : SameCode inComment inComment' [] []
  | cons {inComment inComment' : Bool} {row row' : Row} {rows rows' : List Row}
      (columns : row.SameColumns row')
      (code : (CodeLine.of inComment row.source).code = (CodeLine.of inComment' row'.source).code)
      (rest : SameCode (CodeLine.of inComment row.source).inComment
        (CodeLine.of inComment' row'.source).inComment rows rows') :
      SameCode inComment inComment' (row :: rows) (row' :: rows')

/-- Whether a row counts for no other reason than that it is taken for the header of an assembly block,
    where `next` stands after it. -/
def countsAsHeader (inComment : Bool) (row : Row) (next : Option Row) : Bool :=
  isAssemblyHeader row && (filledLine inComment row next).tallies != {}

/-- Which rows of a file count as headers. -/
def countedHeaders : Bool → List Row → List Bool
  | _, [] => []
  | inComment, row :: rows =>
    countsAsHeader inComment row rows.head? ::
      countedHeaders (CodeLine.of inComment row.source).inComment rows

/-! ## Lines of the same code -/

variable {inComment inComment' : Bool} {row row' : Row} {line line' : Line}

/-- What a row adds to the tallies does not depend on its source but for the code. -/
theorem tallies_eq (columns : line.row.SameColumns line'.row) (code : line.code = line'.code) :
    line.tallies = line'.tallies := by
  cases hcode : line'.code with
  | none => rw [Line.tallies, Line.tallies, Line.outcome, Line.outcome, code, hcode]; rfl
  | some text =>
    rw [Line.tallies, Line.tallies, Line.outcome, Line.outcome, code, hcode]
    show ({} : Tallies).add (Outcome.of line.row text) = ({} : Tallies).add (Outcome.of line'.row text)
    rw [Outcome.of, Outcome.of, columns.isActive, columns.marker]
    split
    · rfl
    · cases line'.row.marker with
      | covered => rfl
      | reverted => rfl
      | unmarked => simp only; split <;> rfl

theorem tallies_of_uncounted (h : line.outcome = .uncounted) : line.tallies = {} := by
  rw [Line.tallies, h]
  rfl

/-- Code decides what a line does, but for what it adds. -/
theorem effect_eq_of_code (code : line.code = line'.code) (htallies : line.tallies = line'.tallies)
    (hresidue : line.effect.residue = line'.effect.residue) : line.effect = line'.effect := by
  cases line with
  | mk row text =>
    cases line' with
    | mk row' text' =>
      obtain rfl : text = text' := code
      exact Effect.ext htallies hresidue rfl rfl rfl rfl

theorem effect_eq_of_columns (columns : line.row.SameColumns line'.row) (code : line.code = line'.code) :
    line.effect = line'.effect := by
  have htallies := tallies_eq columns code
  have hheading : line.heading? = line'.heading? := by rw [Line.heading?, Line.heading?, code]
  have hresidue : line.isResidue = line'.isResidue := by
    rw [Line.isResidue, Line.isResidue, code, Row.isUnmarkedLegacy, Row.isUnmarkedLegacy,
      columns.instrumentation, columns.marker]
  refine effect_eq_of_code code htallies ?_
  show (if line.heading? = none ∧ line.isResidue then line.tallies else {}) = _
  rw [hheading, hresidue, htallies]
  rfl

theorem Effect.residue_of_tallies_eq_empty (h : line.tallies = {}) : line.effect.residue = {} := by
  show (if line.heading? = none ∧ line.isResidue then line.tallies else {}) = ({} : Tallies)
  rw [h, ite_self]

/-! ## Rows of the same code -/

theorem countsAsHeader_of_isActive (h : row.isActive) (next : Option Row) :
    countsAsHeader inComment row next = false := by
  rw [countsAsHeader, isAssemblyHeader_of_isActive h, Bool.false_and]

/-- A row without a counter adds something only where it counts as a header. -/
theorem countsAsHeader_eq (structural : row.isActive = false) (next : Option Row) :
    countsAsHeader inComment row next = ((filledLine inComment row next).tallies != {}) := by
  cases hheader : isAssemblyHeader row with
  | true => rw [countsAsHeader, hheader, Bool.true_and]
  | false =>
    rw [countsAsHeader, hheader, tallies_of_uncounted (outcome_filledLine structural hheader inComment next)]
    rfl

theorem sameColumns_fillHeader {next next' : Option Row} (columns : row.SameColumns row')
    (hheader : isAssemblyHeader row = isAssemblyHeader row') (hnext : Option.Rel Row.SameColumns next next') :
    (fillHeader row next).SameColumns (fillHeader row' next') := by
  cases hnext with
  | none => exact columns
  | some hnext =>
    simp only [fillHeader, hheader]
    split
    · exact ⟨hnext.instrumentation, hnext.marker⟩
    · exact columns

/-- Rows of the same code have the same effect if both or neither of them count as headers. -/
theorem effect_filledLine_eq {next next' : Option Row} (columns : row.SameColumns row')
    (code : (CodeLine.of inComment row.source).code = (CodeLine.of inComment' row'.source).code)
    (hnext : Option.Rel Row.SameColumns next next')
    (hcounts : countsAsHeader inComment row next = countsAsHeader inComment' row' next') :
    (filledLine inComment row next).effect = (filledLine inComment' row' next').effect := by
  by_cases hheader : isAssemblyHeader row = isAssemblyHeader row'
  · exact effect_eq_of_columns (sameColumns_fillHeader columns hheader hnext) code
  · have hactive := columns.isActive
    have hstructural : row.isActive = false := by
      refine Bool.eq_false_iff.2 fun hrow => hheader ?_
      rw [isAssemblyHeader_of_isActive hrow, isAssemblyHeader_of_isActive (hactive ▸ hrow)]
    rw [countsAsHeader_eq hstructural, countsAsHeader_eq (hactive ▸ hstructural)] at hcounts
    -- one of the two is no header and adds nothing, and so does the other
    have hempty : (filledLine inComment row next).tallies = {} ∧
        (filledLine inComment' row' next').tallies = {} := by
      cases hrow : isAssemblyHeader row with
      | false =>
        have hnone := tallies_of_uncounted (outcome_filledLine hstructural hrow inComment next)
        exact ⟨hnone, by simpa [hnone] using hcounts⟩
      | true =>
        have hrow' : isAssemblyHeader row' = false := by simpa [hrow] using Ne.symm hheader
        have hnone := tallies_of_uncounted (outcome_filledLine (hactive ▸ hstructural) hrow' inComment' next')
        exact ⟨by simpa [hnone] using hcounts, hnone⟩
    refine effect_eq_of_code code (hempty.1.trans hempty.2.symm) ?_
    rw [Effect.residue_of_tallies_eq_empty hempty.1, Effect.residue_of_tallies_eq_empty hempty.2]

theorem SameCode.refl (inComment : Bool) (rows : List Row) : SameCode inComment inComment rows rows := by
  induction rows generalizing inComment with
  | nil => exact .nil
  | cons row rows ih => exact .cons ⟨rfl, rfl⟩ rfl (ih _)

theorem SameCode.head? {rows rows' : List Row} (h : SameCode inComment inComment' rows rows') :
    Option.Rel Row.SameColumns rows.head? rows'.head? := by
  cases h with
  | nil => exact .none
  | cons columns => exact .some columns

theorem SameCode.effects_eq {rows rows' : List Row} (h : SameCode inComment inComment' rows rows')
    (hcounts : countedHeaders inComment rows = countedHeaders inComment' rows') :
    (linesOf inComment (fillAssemblyHeaders rows)).map Line.effect =
      (linesOf inComment' (fillAssemblyHeaders rows')).map Line.effect := by
  induction h with
  | nil => rfl
  | cons columns code rest ih =>
    rw [countedHeaders, countedHeaders, List.cons.injEq] at hcounts
    rw [linesOf_fillAssemblyHeaders_cons, linesOf_fillAssemblyHeaders_cons, List.map_cons, List.map_cons,
      effect_filledLine_eq columns code rest.head? hcounts.1, ih hcounts.2]

/-! ## A file that shows which rows count as headers -/

theorem sameCode_fileInBody (columns : row.SameColumns row')
    (code : (CodeLine.of inComment row.source).code = (CodeLine.of inComment' row'.source).code) (next : Row) :
    SameCode false false (fileInBody inComment row next) (fileInBody inComment' row' next) := by
  have hcomment : ∀ inComment,
      (CodeLine.of (CodeLine.of false Opening.body.source).inComment
        (if inComment then "/*".toList else [])) = ⟨none, inComment⟩ := codeLine_opening .body
  refine .cons ⟨rfl, rfl⟩ rfl (.cons ⟨rfl, rfl⟩ ?_ ?_)
  · simp only [silentRow, hcomment]
  · simp only [silentRow, hcomment]
    refine .cons columns code (.cons ⟨rfl, rfl⟩ ?_ .nil)
    rw [codeLine_nil, codeLine_nil]

/-- A row that counts as a header in one file only has a row after it. -/
theorem exists_next_of_countsAsHeader_ne {next next' : Option Row} (columns : row.SameColumns row')
    (hnext : Option.Rel Row.SameColumns next next')
    (hne : countsAsHeader inComment row next ≠ countsAsHeader inComment' row' next') :
    ∃ other, (filledLine inComment row (some other)).tallies ≠
      (filledLine inComment' row' (some other)).tallies := by
  have hactive := columns.isActive
  have hstructural : row.isActive = false := by
    refine Bool.eq_false_iff.2 fun hrow => hne ?_
    rw [countsAsHeader_of_isActive hrow, countsAsHeader_of_isActive (hactive ▸ hrow)]
  rw [countsAsHeader_eq hstructural, countsAsHeader_eq (hactive ▸ hstructural)] at hne
  cases hnext with
  | none =>
    -- at the end of a file a header keeps its own columns
    have hempty : (filledLine inComment row none).tallies = {} :=
      tallies_of_uncounted (outcome_of_structural hstructural)
    have hempty' : (filledLine inComment' row' none).tallies = {} :=
      tallies_of_uncounted (outcome_of_structural (hactive ▸ hstructural))
    exact absurd (by rw [hempty, hempty']) hne
  | @some next next' hnext =>
    have hsame : (filledLine inComment' row' (some next)).tallies =
        (filledLine inComment' row' (some next')).tallies :=
      tallies_eq (sameColumns_fillHeader ⟨rfl, rfl⟩ rfl (.some hnext)) rfl
    exact ⟨next, fun heq => hne (by rw [heq, hsame])⟩

theorem SameCode.exists_tallies_ne {rows rows' : List Row} (h : SameCode inComment inComment' rows rows')
    (hne : countedHeaders inComment rows ≠ countedHeaders inComment' rows') :
    ∃ (inComment inComment' : Bool) (row row' next : Row), (row, row') ∈ rows.zip rows' ∧
      row.SameColumns row' ∧
      (CodeLine.of inComment row.source).code = (CodeLine.of inComment' row'.source).code ∧
      (filledLine inComment row (some next)).tallies ≠ (filledLine inComment' row' (some next)).tallies := by
  induction h with
  | nil => exact absurd rfl hne
  | @cons inComment inComment' row row' rows rows' columns code rest ih =>
    by_cases hfirst : countsAsHeader inComment row rows.head? = countsAsHeader inComment' row' rows'.head?
    · rw [countedHeaders, countedHeaders, hfirst] at hne
      obtain ⟨c, c', other, other', next, hmem, hother⟩ := ih fun heq => hne (congrArg _ heq)
      exact ⟨c, c', other, other', next, List.mem_cons_of_mem _ hmem, hother⟩
    · obtain ⟨next, htallies⟩ := exists_next_of_countsAsHeader_ne columns rest.head? hfirst
      exact ⟨inComment, inComment', row, row', next, List.mem_cons_self, columns, code, htallies⟩

/-- **When comments do not matter.**  Files of the same code have the same figures when the same rows of
    them count as headers of assembly blocks.  Nothing less will do: where a comment makes a row count as
    a header, or keeps it from counting, there are files of the same code around the row that have other
    figures. -/
theorem figuresOf_eq_of_sameCode {rows rows' : List Row} (h : SameCode false false rows rows') :
    (countedHeaders false rows = countedHeaders false rows' →
      ∀ allFunctions, figuresOf allFunctions rows = figuresOf allFunctions rows') ∧
    (countedHeaders false rows ≠ countedHeaders false rows' →
      ∃ row row' before before' after, (row, row') ∈ rows.zip rows' ∧
        SameCode false false (before ++ row :: after) (before' ++ row' :: after) ∧
        figuresOf true (before ++ row :: after) ≠ figuresOf true (before' ++ row' :: after)) := by
  refine ⟨fun hcounts => figuresOf_eq (h.effects_eq hcounts), fun hne => ?_⟩
  obtain ⟨inComment, inComment', row, row', next, hmem, columns, code, htallies⟩ := h.exists_tallies_ne hne
  refine ⟨row, row', [silentRow Opening.body.source, silentRow (if inComment then "/*".toList else [])],
    [silentRow Opening.body.source, silentRow (if inComment' then "/*".toList else [])],
    [{ next with source := [] }], hmem, sameCode_fileInBody columns code next, fun heq => htallies ?_⟩
  have hfigures : figuresOf true (fileInBody inComment row next) =
      figuresOf true (fileInBody inComment' row' next) := heq
  rw [figuresOf_fileInBody, figuresOf_fileInBody] at hfigures
  simpa using hfigures

/-- A function with an assembly block, the header of which is written `header`. -/
def assemblyRows (header : Text) : List Row :=
  [⟨none, .hits 1, .covered, "function f() public \x7b".toList⟩, ⟨none, .structural, .unmarked, header⟩,
    ⟨none, .hits 1, .covered, "x := 1".toList⟩, ⟨none, .structural, .unmarked, "\x7d".toList⟩,
    ⟨none, .structural, .unmarked, "\x7d".toList⟩]

theorem sameCode_assemblyRows {header header' : Text}
    (h : CodeLine.of false header = CodeLine.of false header') :
    SameCode false false (assemblyRows header) (assemblyRows header') := by
  have hheading : CodeLine.of false "function f() public \x7b".toList =
      ⟨some "function f() public \x7b".toList, false⟩ := by decide
  refine .cons ⟨rfl, rfl⟩ rfl ?_
  simp only [hheading]
  refine .cons ⟨rfl, rfl⟩ (congrArg CodeLine.code h) ?_
  rw [h]
  exact .refl _ _

theorem figuresOf_commentedHeader :
    SameCode false false (assemblyRows "assembly \x7b // free memory".toList)
        (assemblyRows "assembly \x7b".toList) ∧
      ∀ allFunctions, figuresOf allFunctions (assemblyRows "assembly \x7b // free memory".toList) =
        figuresOf allFunctions (assemblyRows "assembly \x7b".toList) := by
  have hsame : SameCode false false (assemblyRows "assembly \x7b // free memory".toList)
      (assemblyRows "assembly \x7b".toList) := sameCode_assemblyRows (by decide)
  exact ⟨hsame, (figuresOf_eq_of_sameCode hsame).1 (by decide)⟩

/-- A comment before the header takes it out of the count. -/
theorem figuresOf_hiddenHeader :
    SameCode false false (assemblyRows "/* free memory */ assembly \x7b".toList)
        (assemblyRows "assembly \x7b".toList) ∧
      figuresOf true (assemblyRows "/* free memory */ assembly \x7b".toList) ≠
        figuresOf true (assemblyRows "assembly \x7b".toList) := by
  refine ⟨sameCode_assemblyRows (by decide), ?_⟩
  decide +kernel

end Scan

end FuzzCoverage

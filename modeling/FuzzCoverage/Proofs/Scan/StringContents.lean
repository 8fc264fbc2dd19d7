import FuzzCoverage.Proofs.Scan.Surroundings
import FuzzCoverage.Proofs.Solidity.StringLiteral

/-! # What string literals do to the figures of a file

Comments and braces are read the same whatever the string literals of a file hold.  The words of a
heading, of a visibility and of a statement are looked for in the strings as well, and what stands
there can change how a row counts.

Two files agree outside of their strings by `AgreeOutsideStrings`.  Their figures are the same when
their rows have the same effects, and a row that has another effect changes the figures of some file
around it (`figuresOf_eq_of_agreeOutsideStrings`); `figuresOf_visibilityReason` is such a row. -/

namespace FuzzCoverage.Scan

open Solidity Trace

/-- Two rows have the same columns, and sources that differ within string literals only. -/
structure AgreesWith (inComment : Bool) (row row' : Row) : Prop where
  instrumentation : row.instrumentation = row'.instrumentation
  marker : row.marker = row'.marker
  source : emptySource (.ofLine inComment) row.source = emptySource (.ofLine inComment) row'.source

/-- Two lists of rows agree row by row, where the first one begins inside of a block comment or does
    not. -/
inductive AgreeOutsideStrings : Bool → List Row → List Row → Prop
  | nil {inComment : Bool} : AgreeOutsideStrings inComment [] []
  | cons {inComment : Bool} {row row' : Row} {rows rows' : List Row}
      (first : AgreesWith inComment row row')
      (rest : AgreeOutsideStrings (CodeLine.of inComment row.source).inComment rows rows') :
      AgreeOutsideStrings inComment (row :: rows) (row' :: rows')

theorem AgreesWith.codeLine {inComment : Bool} {row row' : Row} (h : AgreesWith inComment row row') :
    (CodeLine.of inComment row.source).inComment = (CodeLine.of inComment row'.source).inComment ∧
      (CodeLine.of inComment row.source).code.map (emptyStrings none) =
        (CodeLine.of inComment row'.source).code.map (emptyStrings none) := by
  have hempty := congrArg (CodeLine.of inComment) h.source
  rw [CodeLine.of_emptySource, CodeLine.of_emptySource, CodeLine.mk.injEq] at hempty
  exact hempty.symm

theorem AgreesWith.braces {inComment : Bool} {row row' : Row} (h : AgreesWith inComment row row')
    (filled filled' : Row) :
    Line.braces ⟨filled, (CodeLine.of inComment row.source).code⟩ =
      Line.braces ⟨filled', (CodeLine.of inComment row'.source).code⟩ := by
  have hcode := h.codeLine.2
  cases hfirst : (CodeLine.of inComment row.source).code with
  | none =>
    rw [hfirst, Option.map_none] at hcode
    rw [Option.map_eq_none_iff.1 hcode.symm]
    rfl
  | some code =>
    rw [hfirst, Option.map_some] at hcode
    obtain ⟨code', hcode', hsame⟩ := Option.map_eq_some_iff.1 hcode.symm
    simp [Line.braces, hcode', Braces.of_eq_count, hsame]

/-! ## Files that agree outside of their strings -/

theorem AgreeOutsideStrings.refl (inComment : Bool) (rows : List Row) :
    AgreeOutsideStrings inComment rows rows := by
  induction rows generalizing inComment with
  | nil => exact .nil
  | cons row rows ih => exact .cons ⟨rfl, rfl, rfl⟩ (ih _)

theorem AgreesWith.fileAround {inComment : Bool} {row row' : Row} (h : AgreesWith inComment row row')
    (opening : Opening) (next : Row) :
    AgreeOutsideStrings false (fileAround opening inComment row next)
      (fileAround opening inComment row' next) := by
  refine .cons ⟨rfl, rfl, rfl⟩ (.cons ⟨rfl, rfl, rfl⟩ ?_)
  simp only [silentRow, codeLine_opening]
  exact .cons h (.refl _ _)

/-- Rows that agree are filled by rows that agree, or at the end of the file by themselves. -/
theorem AgreesWith.filledLine_eq {inComment : Bool} {row row' : Row} {rows rows' : List Row}
    (h : AgreesWith inComment row row')
    (hrest : AgreeOutsideStrings (CodeLine.of inComment row.source).inComment rows rows') :
    ∃ next, filledLine inComment row rows.head? = filledLine inComment row (some next) ∧
      filledLine inComment row' rows'.head? = filledLine inComment row' (some next) := by
  refine ⟨rows.head?.getD row, ?_, ?_⟩
  · rw [filledLine, fillHeader_eq rfl rfl, filledLine]
  · rw [filledLine, filledLine, fillHeader_eq]
    · cases hrest with
      | nil => exact h.instrumentation.symm
      | cons first rest => exact first.instrumentation.symm
    · cases hrest with
      | nil => exact h.marker.symm
      | cons first rest => exact first.marker.symm

/-- Files with different effects have rows with different effects in one place. -/
theorem AgreeOutsideStrings.exists_effect_ne {inComment : Bool} {rows rows' : List Row}
    (h : AgreeOutsideStrings inComment rows rows')
    (hne : (linesOf inComment (fillAssemblyHeaders rows)).map Line.effect ≠
      (linesOf inComment (fillAssemblyHeaders rows')).map Line.effect) :
    ∃ inComment row row' next, (row, row') ∈ rows.zip rows' ∧ AgreesWith inComment row row' ∧
      (filledLine inComment row (some next)).effect ≠
        (filledLine inComment row' (some next)).effect := by
  induction h with
  | nil => exact absurd rfl hne
  | @cons inComment row row' rows rows' first rest ih =>
    obtain ⟨next, hfilled, hfilled'⟩ := first.filledLine_eq rest
    rw [linesOf_fillAssemblyHeaders_cons, linesOf_fillAssemblyHeaders_cons, hfilled, hfilled',
      ← first.codeLine.1, List.map_cons, List.map_cons] at hne
    -- the first rows differ, or rows after them do
    by_cases heffect : (filledLine inComment row (some next)).effect =
        (filledLine inComment row' (some next)).effect
    · rw [heffect] at hne
      obtain ⟨inComment, other, other', next, hmem, hagrees, hother⟩ :=
        ih fun heq => hne (congrArg _ heq)
      exact ⟨inComment, other, other', next, List.mem_cons_of_mem _ hmem, hagrees, hother⟩
    · exact ⟨inComment, row, row', next, List.mem_cons_self, first, heffect⟩

/-- **When the contents of strings do not matter.**  Files that agree outside of their strings have
    the same figures when their rows have the same effects.  Nothing less will do: a row whose effect
    depends on its strings changes the figures of some file by what it holds there. -/
theorem figuresOf_eq_of_agreeOutsideStrings {rows rows' : List Row}
    (h : AgreeOutsideStrings false rows rows') :
    (effectsOf rows = effectsOf rows' →
      ∀ allFunctions, figuresOf allFunctions rows = figuresOf allFunctions rows') ∧
    (effectsOf rows ≠ effectsOf rows' →
      ∃ row row' before after, (row, row') ∈ rows.zip rows' ∧
        AgreeOutsideStrings false (before ++ row :: after) (before ++ row' :: after) ∧
        figuresOf true (before ++ row :: after) ≠ figuresOf true (before ++ row' :: after)) := by
  refine ⟨fun heffects => figuresOf_eq heffects, fun hne => ?_⟩
  obtain ⟨inComment, row, row', next, hmem, hagrees, heffect⟩ := h.exists_effect_ne hne
  -- one of the three files around the row shows the difference
  obtain ⟨opening, hopening⟩ : ∃ opening, figuresOf true (fileAround opening inComment row next) ≠
      figuresOf true (fileAround opening inComment row' next) := by
    refine Classical.byContradiction fun hnone => heffect ?_
    refine effect_eq_of_figuresAround (hagrees.braces _ _) fun opening => ?_
    rw [← figuresOf_fileAround_eq, ← figuresOf_fileAround_eq]
    exact Classical.byContradiction fun hopening => hnone ⟨opening, hopening⟩
  exact ⟨row, row', [silentRow opening.source, silentRow (if inComment then "/*".toList else [])],
    [{ next with source := [] }, silentRow "*/ \x7b".toList], hmem, hagrees.fileAround opening next,
    hopening⟩

/-- A function that may revert with a reason, which no run has made it do. -/
def revertRows (reason : Text) : List Row :=
  [⟨some 1, .hits 3, .covered, "function pay() \x7b".toList⟩,
    ⟨some 2, .hits 0, .unmarked, "revert(\"".toList ++ reason ++ "\");".toList⟩,
    ⟨some 3, .structural, .unmarked, "\x7d".toList⟩]

theorem figuresOf_plainReason :
    AgreeOutsideStrings false (revertRows "closed".toList) (revertRows "opened".toList) ∧
      effectsOf (revertRows "closed".toList) = effectsOf (revertRows "opened".toList) ∧
      ∀ allFunctions, figuresOf allFunctions (revertRows "closed".toList) =
        figuresOf allFunctions (revertRows "opened".toList) := by
  have hagree : AgreeOutsideStrings false (revertRows "closed".toList) (revertRows "opened".toList) :=
    .cons ⟨rfl, rfl, rfl⟩ (.cons ⟨rfl, rfl, by decide⟩ (.refl _ _))
  have heffects : effectsOf (revertRows "closed".toList) = effectsOf (revertRows "opened".toList) := by decide
  exact ⟨hagree, heffects, (figuresOf_eq_of_agreeOutsideStrings hagree).1 heffects⟩

/-- A word that stands for visibility in a declaration takes a row out of the count when it stands in
    a reason. -/
theorem figuresOf_visibilityReason :
    AgreeOutsideStrings false (revertRows "private".toList) (revertRows "privatx".toList) ∧
      figuresOf true (revertRows "private".toList) ≠ figuresOf true (revertRows "privatx".toList) := by
  refine ⟨.cons ⟨rfl, rfl, rfl⟩ (.cons ⟨rfl, rfl, by decide⟩ (.refl _ _)), ?_⟩
  decide +kernel

end FuzzCoverage.Scan

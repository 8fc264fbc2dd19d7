import FuzzCoverage.Proofs.Trace.Columns

/-! # Rows of either layout, as they are written

`CountedRow` is a row with a hit count, or without one where the compiler put no counter on the line;
`LegacyRow` is a row of the layout that has no hit counts.  Either is written with blanks around its
columns.

* `CountedRow.parse?_countedText` — a row of the first kind is read as what it is;
* `LegacyRow.parse?_text_iff` — so is a row of the second kind, unless it is written like one of the
  first.  That takes an empty marker column and a source that begins with marker letters, or with
  nothing, before a divider of its own.

No reader can do better: `CountedRow.parse?_countedText` leaves it no other choice on a row that is
both. -/

namespace FuzzCoverage.Trace

open Text

/-! ## Columns and what is in them -/

/-- Blanks on the two sides of a column's content. -/
structure Padding where
  before : Text := []
  after : Text := []
  before_blank : before.allBlank := by decide
  after_blank : after.allBlank := by decide

def Padding.around (p : Padding) (content : Text) : Text := p.before ++ content ++ p.after

theorem Padding.trim_around (p : Padding) (content : Text) : (p.around content).trim = content.trim :=
  Text.trim_around p.before_blank p.after_blank content

/-- A hit column: a count that fits in its word, or none. -/
abbrev HitColumn := Option (Fin Decimal.word64)

def HitColumn.text (hits : HitColumn) : Text := hits.elim [] fun n => Nat.toDigits 10 n

def HitColumn.instrumentation (hits : HitColumn) : Instrumentation :=
  hits.elim .structural fun n => .hits n

/-- A marker column: any number of marker letters, in any order. -/
structure Marks where
  letters : Text
  isLetter : ∀ c ∈ letters, c ∈ markerLetters

/-- What the letters tell of a line. -/
def Marks.marker (marks : Marks) : Marker :=
  if 'r' ∈ marks.letters ∨ 'e' ∈ marks.letters ∨ 'o' ∈ marks.letters then .reverted
  else if marks.letters = [] then .unmarked
  else .covered

/-- The number of a line, if its column has one. -/
def lineNumber? (column : Text) : Option Nat :=
  (Decimal.readNatural Decimal.word32 column.trim).toOption

/-! ## Reading columns -/

theorem isBlank_of_isDigit {c : Char} (h : c.isDigit) : isBlank c = false := by
  have hcode : 48 ≤ c.toNat ∧ c.toNat ≤ 57 := by
    simp only [Char.isDigit, Bool.and_eq_true, decide_eq_true_eq] at h
    exact h
  simp only [isBlank, CharRanges.has, blankRanges, List.any_cons, List.any_nil, Bool.or_eq_false_iff,
    Bool.and_eq_false_iff, decide_eq_false_iff_not, and_true]
  omega

theorem HitColumn.ofColumn?_text (hits : HitColumn) :
    Instrumentation.ofColumn? hits.text.trim = some hits.instrumentation := by
  cases hits with
  | none => rfl
  | some n =>
    have hdigits : ∀ c ∈ Nat.toDigits 10 n, isBlank c = false :=
      fun c hc => isBlank_of_isDigit (Nat.isDigit_of_mem_toDigits (by decide) (by decide) hc)
    have htext : (Nat.toDigits 10 n).isEmpty = false := by simp [Nat.toDigits_ne_nil]
    simp [text, instrumentation, trim_of_forall hdigits, Instrumentation.ofColumn?, htext,
      Decimal.readNatural_toDigits n.isLt, Except.toOption]

namespace Marks

theorem trim_letters (marks : Marks) : marks.letters.trim = marks.letters := by
  have hblank : markerLetters.all (!isBlank ·) := by decide
  refine trim_of_forall fun c hc => ?_
  simpa using List.all_eq_true.1 hblank c (marks.isLetter c hc)

theorem ofColumn?_letters (marks : Marks) : Marker.ofColumn? marks.letters = some marks.marker := by
  have hall : marks.letters.all markerLetters.contains := by simpa using marks.isLetter
  have hreverted : marks.letters.any revertLetters.contains ↔
      'r' ∈ marks.letters ∨ 'e' ∈ marks.letters ∨ 'o' ∈ marks.letters := by
    simp only [revertLetters, List.any_eq_true, List.contains_iff_mem, List.mem_cons, List.not_mem_nil,
      or_false, and_or_left, exists_or, exists_eq_right]
  simp only [Marker.ofColumn?, marker, hall, hreverted, List.isEmpty_iff, apply_ite some]
  by_cases hnone : marks.letters = []
  · simp [hnone]
  · simp [hnone]

end Marks

theorem Marker.ofColumn?_isSome {column : Text} (h : (Marker.ofColumn? column).isSome) :
    ∀ c ∈ column, c ∈ markerLetters := by
  unfold Marker.ofColumn? at h
  split at h
  · next hnone => simp [List.isEmpty_iff.1 hnone]
  · split at h
    · cases h
    · next hall => simpa using hall

/-- Marker letters are no hit count. -/
theorem Marks.not_isHitColumn {marks : Marks} (h : marks.letters ≠ []) :
    Instrumentation.ofColumn? marks.letters = none := by
  cases hletters : marks.letters with
  | nil => exact absurd hletters h
  | cons c letters =>
    have hc : c ∈ markerLetters := marks.isLetter c (by simp [hletters])
    have hother : markerLetters.all fun c => !c.isDigit && c != '+' := by decide
    cases hread : Decimal.readNatural Decimal.word64 (c :: letters) with
    | error fault => simp [Instrumentation.ofColumn?, hread, Except.toOption]
    | ok n =>
      have hdigit := Decimal.isDigit_or_plus_of_readNatural hread c List.mem_cons_self
      have hletter := List.all_eq_true.1 hother c hc
      simp_all

/-! ## Rows with a hit column -/

structure CountedRow where
  number : Text
  hits : HitColumn
  marks : Marks
  source : Text
  number_noDivider : '|' ∉ number

/-- Blanks around the columns before the source; those around the source are its own. -/
structure RowPadding where
  number : Padding := {}
  hits : Padding := {}
  marks : Padding := {}

namespace CountedRow

def columns (w : CountedRow) (p : RowPadding) : Columns where
  number := p.number.around w.number
  hits := p.hits.around w.hits.text
  marker := p.marks.around w.marks.letters
  source := w.source

def text (w : CountedRow) (p : RowPadding) : Text := (w.columns p).text

def row (w : CountedRow) : Row where
  lineNumber := lineNumber? w.number
  instrumentation := w.hits.instrumentation
  marker := w.marks.marker
  source := w.source.trim

end CountedRow

theorem Padding.not_mem_around {p : Padding} {c : Char} (hc : isBlank c = false) {content : Text}
    (h : c ∉ content) : c ∉ p.around content := by
  rw [← List.count_eq_zero] at h ⊢
  rw [← Text.count_trim hc, p.trim_around, Text.count_trim hc, h]

namespace CountedRow

theorem parse?_eq (w : CountedRow) (p : RowPadding) : Row.parse? (w.text p) = some w.row := by
  have hhits : Instrumentation.ofColumn? (w.columns p).hits.trim = some w.hits.instrumentation := by
    rw [columns, p.hits.trim_around, w.hits.ofColumn?_text]
  have hmarker : Marker.ofColumn? (w.columns p).marker.trim = some w.marks.marker := by
    rw [columns, p.marks.trim_around, w.marks.trim_letters, w.marks.ofColumn?_letters]
  rw [text, Row.parse?_text (Padding.not_mem_around (by decide) w.number_noDivider) hhits hmarker]
  simp [row, lineNumber?, columns, p.number.trim_around]

theorem row_known (w : CountedRow) : w.row.instrumentation ≠ .unknown := by
  intro hunknown
  exact Instrumentation.ofColumn?_ne_unknown _
    (w.hits.ofColumn?_text.trans (congrArg some hunknown))

/-- **A row with a hit column is read as what it says**, however many dividers there are in its source,
    and never as a row of the other layout. -/
theorem parse?_countedText (w : CountedRow) (p : RowPadding) :
    Row.parse? (w.text p) = some w.row ∧ w.row.instrumentation ≠ .unknown :=
  ⟨w.parse?_eq p, w.row_known⟩

end CountedRow

/-- A row whose source has dividers of its own, and begins like a row itself. -/
def conditionRow : CountedRow where
  number := "42".toList
  hits := some ⟨1700, by decide⟩
  marks := ⟨"*r".toList, by simp [markerLetters]⟩
  source := " 3|*| || paused \x7b ".toList
  number_noDivider := by decide

def widePadding : RowPadding where
  number := { before := " ".toList, after := "\t".toList }
  hits := { before := "   ".toList, after := " ".toList }
  marks := { before := " ".toList, after := "  ".toList }

/-- It is read by its own columns, and every divider of the source is kept. -/
theorem parse?_conditionRow :
    conditionRow.text widePadding = " 42\t|   1700 | *r  | 3|*| || paused \x7b ".toList ∧
      Row.parse? " 42\t|   1700 | *r  | 3|*| || paused \x7b ".toList =
        some ⟨some 42, .hits 1700, .reverted, "3|*| || paused \x7b".toList⟩ := by
  have htext : conditionRow.text widePadding = " 42\t|   1700 | *r  | 3|*| || paused \x7b ".toList := by
    decide
  refine ⟨htext, ?_⟩
  rw [← htext, (conditionRow.parse?_countedText widePadding).1]
  decide

/-! ## Rows without a hit column -/

structure LegacyRow where
  number : Text
  marks : Marks
  source : Text
  number_noDivider : '|' ∉ number

namespace LegacyRow

def text (w : LegacyRow) (number marks : Padding) : Text :=
  number.around w.number ++ '|' :: (marks.around w.marks.letters ++ '|' :: w.source)

def row (w : LegacyRow) : Row where
  lineNumber := lineNumber? w.number
  instrumentation := .unknown
  marker := w.marks.marker
  source := w.source.trim

/-- Whether the marker column can be an empty hit column, and what the source begins with a marker
    column. -/
def looksCounted (w : LegacyRow) : Bool :=
  w.marks.letters.isEmpty &&
    (cut? '|' w.source).any fun (column, _) => column.trim.all markerLetters.contains

end LegacyRow

theorem exists_padding (t : Text) : ∃ p : Padding, p.around t.trim = t := by
  have hbefore : allBlank (t.takeWhile isBlank) := List.all_takeWhile
  have hafter : allBlank (t.trimStart.reverse.takeWhile isBlank).reverse := by
    rw [allBlank, List.all_reverse]
    exact List.all_takeWhile
  refine ⟨⟨_, _, hbefore, hafter⟩, ?_⟩
  calc t.takeWhile isBlank ++ t.trim ++ (t.trimStart.reverse.takeWhile isBlank).reverse
      = t.takeWhile isBlank ++ (t.trimStart.reverse.takeWhile isBlank ++
          t.trimStart.reverse.dropWhile isBlank).reverse := by
        rw [List.reverse_append, List.append_assoc]
        rfl
    _ = t.takeWhile isBlank ++ t.dropWhile isBlank := by
        rw [List.takeWhile_append_dropWhile, List.reverse_reverse]
        rfl
    _ = t := List.takeWhile_append_dropWhile

/-- What can be taken for a row with a hit column is written like one. -/
theorem LegacyRow.exists_countedRow {w : LegacyRow} (h : w.looksCounted) (number marks : Padding) :
    ∃ (c : CountedRow) (p : RowPadding), c.text p = w.text number marks := by
  simp only [looksCounted, Bool.and_eq_true, List.isEmpty_iff, Option.any_eq_true, Prod.exists] at h
  obtain ⟨hnone, column, rest, hcut, hletters⟩ := h
  obtain ⟨p, hcolumn⟩ := exists_padding column
  -- the empty marker column is the hit column, and the source is cut at its first divider
  let c : CountedRow :=
    { number := w.number
      hits := none
      marks := ⟨column.trim, by simpa using hletters⟩
      source := rest
      number_noDivider := w.number_noDivider }
  refine ⟨c, { number := number, hits := marks, marks := p }, ?_⟩
  simp [c, CountedRow.text, CountedRow.columns, Columns.text, HitColumn.text, LegacyRow.text, hcolumn,
    hnone, append_of_cut? hcut]

theorem LegacyRow.parse?_text_of_not_looksCounted {w : LegacyRow} (h : w.looksCounted = false)
    (number marks : Padding) : Row.parse? (w.text number marks) = some w.row := by
  have hletters : '|' ∉ w.marks.letters := fun hmem => absurd (w.marks.isLetter _ hmem) (by decide)
  have htrim : (marks.around w.marks.letters).trim = w.marks.letters := by
    rw [marks.trim_around, w.marks.trim_letters]
  have hcounted : Row.ofCounted? (lineNumber? (number.around w.number)) (marks.around w.marks.letters)
      w.source = none := by
    by_cases hnone : w.marks.letters = []
    · -- the hit column is empty, so that there is no marker column after it
      cases hcut : cut? '|' w.source with
      | none => simp [Row.ofCounted?, hcut]
      | some columns =>
        have hmarker : Marker.ofColumn? columns.1.trim = none := by
          cases hsome : Marker.ofColumn? columns.1.trim with
          | none => rfl
          | some marker =>
            have hall := Marker.ofColumn?_isSome (Option.isSome_of_eq_some hsome)
            simp [looksCounted, hnone, hcut] at h
            obtain ⟨c, hc, hother⟩ := h
            exact absurd (hall c hc) hother
        simp [Row.ofCounted?, hcut, hmarker]
    · -- marker letters stand where the hit count would
      simp [Row.ofCounted?, htrim, Marks.not_isHitColumn hnone]
  have hlegacy : Row.ofLegacy? (lineNumber? (number.around w.number)) (marks.around w.marks.letters)
      w.source = some w.row := by
    simp [Row.ofLegacy?, htrim, w.marks.ofColumn?_letters, row, lineNumber?, number.trim_around]
  rw [lineNumber?] at hcounted hlegacy
  simp [Row.parse?, text, cut?_append _ (Padding.not_mem_around (by decide) w.number_noDivider),
    cut?_append _ (Padding.not_mem_around (by decide) hletters), hcounted, hlegacy]

/-- **A row without a hit column is read as what it says** if it does not look like a row with one, and
    only then.  A row that looks like one is one. -/
theorem LegacyRow.parse?_text_iff (w : LegacyRow) (number marks : Padding) :
    (Row.parse? (w.text number marks) = some w.row ↔ w.looksCounted = false) ∧
      (w.looksCounted ↔ ∃ (c : CountedRow) (p : RowPadding), c.text p = w.text number marks) := by
  -- as a row with a hit column it is read as one, and not as what it says
  have hread : Row.parse? (w.text number marks) = some w.row →
      ¬ ∃ (c : CountedRow) (p : RowPadding), c.text p = w.text number marks := by
    rintro hlegacy ⟨c, p, htext⟩
    have hcounted : w.row = c.row :=
      Option.some.inj (hlegacy.symm.trans (htext ▸ c.parse?_eq p))
    exact c.row_known (congrArg Row.instrumentation hcounted).symm
  constructor
  · constructor
    · intro hlegacy
      cases hlooks : w.looksCounted with
      | false => rfl
      | true => exact absurd (exists_countedRow hlooks number marks) (hread hlegacy)
    · exact fun hlooks => parse?_text_of_not_looksCounted hlooks number marks
  · constructor
    · exact fun hlooks => exists_countedRow hlooks number marks
    · intro hcounted
      cases hlooks : w.looksCounted with
      | true => rfl
      | false => exact absurd hcounted (hread (parse?_text_of_not_looksCounted hlooks number marks))

/-- The second row of a condition that is written on two rows. -/
def disjunctionRow : LegacyRow where
  number := "7".toList
  marks := ⟨[], by simp⟩
  source := "|| paused;".toList
  number_noDivider := by decide

/-- It is read as a row without a counter, and a divider of its source is lost. -/
theorem parse?_disjunctionRow :
    Row.parse? (disjunctionRow.text {} {}) =
        some ⟨some 7, .structural, .unmarked, "| paused;".toList⟩ ∧
      disjunctionRow.row = ⟨some 7, .unknown, .unmarked, "|| paused;".toList⟩ := by
  decide

end FuzzCoverage.Trace

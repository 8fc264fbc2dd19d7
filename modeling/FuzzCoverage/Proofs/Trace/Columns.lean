import FuzzCoverage.Trace.Row

/-! # Rows of the layout with hit counts

`Columns` is such a row before it is written down, and `Row.parse?_text` says that reading what is
written gives back its columns: neither a divider in the source nor blanks around the other columns
are in the way, and the row is never taken for one of the legacy layout. -/

namespace FuzzCoverage.Trace

/-- The four columns of a row, as they stand between the dividers. -/
structure Columns where
  number : Text
  hits : Text
  marker : Text
  source : Text
  deriving DecidableEq, Repr

namespace Columns

def text (c : Columns) : Text :=
  c.number ++ '|' :: (c.hits ++ '|' :: (c.marker ++ '|' :: c.source))

/-- Whether the columns are what the layout asks for: the number has no divider, the hits are a count
    or missing, and the marker has marker letters only. -/
structure WellFormed (c : Columns) : Prop where
  number : '|' ∉ c.number
  hits : (Instrumentation.ofColumn? c.hits.trim).isSome
  marker : (Marker.ofColumn? c.marker.trim).isSome

end Columns

theorem not_mem_of_not_mem_trim {t : Text} (h : '|' ∉ t.trim) : '|' ∉ t := by
  rw [← List.count_eq_zero] at h ⊢
  rw [← h]
  exact (Text.count_trim (by decide) t).symm

theorem Instrumentation.not_mem_of_ofColumn? {column : Text} {i : Instrumentation}
    (h : Instrumentation.ofColumn? column = some i) : '|' ∉ column := by
  unfold Instrumentation.ofColumn? at h
  split at h
  · rename_i hempty
    simp [List.isEmpty_iff.1 hempty]
  · intro hmem
    -- what reads as a count is written with digits and a plus sign
    cases hread : Decimal.readNatural Decimal.word64 column with
    | error fault =>
      rw [hread] at h
      cases h
    | ok n =>
      have hchars := Decimal.isDigit_or_plus_of_readNatural hread '|' hmem
      exact absurd hchars (by decide)

theorem Marker.not_mem_of_ofColumn? {column : Text} {m : Marker} (h : Marker.ofColumn? column = some m) :
    '|' ∉ column := by
  unfold Marker.ofColumn? at h
  split at h
  · rename_i hempty
    simp [List.isEmpty_iff.1 hempty]
  · split at h
    · cases h
    · rename_i hletters
      intro hmem
      simp only [Bool.not_eq_true', Bool.not_eq_false] at hletters
      exact absurd (List.all_eq_true.1 hletters '|' hmem) (by decide)

/-- **A row of the layout with hit counts is read as it was written.** -/
theorem Row.parse?_text {c : Columns} {i : Instrumentation} {m : Marker} (hnumber : '|' ∉ c.number)
    (hhits : Instrumentation.ofColumn? c.hits.trim = some i)
    (hmarker : Marker.ofColumn? c.marker.trim = some m) :
    Row.parse? c.text =
      some { lineNumber := (Decimal.readNatural Decimal.word32 c.number.trim).toOption
             instrumentation := i, marker := m, source := c.source.trim } := by
  have hsecond : '|' ∉ c.hits := not_mem_of_not_mem_trim (Instrumentation.not_mem_of_ofColumn? hhits)
  have hthird : '|' ∉ c.marker := not_mem_of_not_mem_trim (Marker.not_mem_of_ofColumn? hmarker)
  simp [Row.parse?, Columns.text, Text.cut?_append _ hnumber, Text.cut?_append _ hsecond,
    Text.cut?_append _ hthird, ofCounted?, hhits, hmarker]

/-! ## Rows that gain a star -/

/-- A row before and after its line may have been covered: it stays as it is, or it is a row of the
    layout with hit counts whose marker column was empty and has a star now. -/
inductive SameOrStarred : Text → Text → Prop
  | same (row : Text) : SameOrStarred row row
  | starred {c : Columns} {star : Text} (wellFormed : c.WellFormed) (unmarked : c.marker.trim = [])
      (star_trim : star.trim = ['*']) : SameOrStarred c.text { c with marker := star }.text

/-- The same for rows that have been read. -/
inductive Row.SameOrCovered : Row → Row → Prop
  | same (row : Row) : SameOrCovered row row
  | covered {row : Row} (unmarked : row.marker = .unmarked) (counted : row.instrumentation ≠ .unknown) :
      SameOrCovered row { row with marker := .covered }

theorem Instrumentation.ofColumn?_ne_unknown (column : Text) :
    Instrumentation.ofColumn? column ≠ some .unknown := by
  unfold Instrumentation.ofColumn?
  split
  · simp
  · cases Decimal.readNatural Decimal.word64 column <;> simp [Except.toOption]

theorem SameOrStarred.parse? {row row' : Text} (h : SameOrStarred row row') :
    Option.Rel Row.SameOrCovered (Row.parse? row) (Row.parse? row') := by
  cases h with
  | same =>
    cases Row.parse? row with
    | none => exact .none
    | some read => exact .some (.same read)
  | @starred c star wellFormed unmarked star_trim =>
    obtain ⟨i, hhits⟩ := Option.isSome_iff_exists.1 wellFormed.hits
    have hbefore : Marker.ofColumn? c.marker.trim = some .unmarked := by
      rw [unmarked]
      rfl
    have hafter : Marker.ofColumn? star.trim = some .covered := by
      rw [star_trim]
      rfl
    have hcounted : i ≠ .unknown := by
      rintro rfl
      exact Instrumentation.ofColumn?_ne_unknown _ hhits
    rw [Row.parse?_text wellFormed.number hhits hbefore,
      Row.parse?_text (c := { c with marker := star }) wellFormed.number hhits hafter]
    exact .some (.covered rfl hcounted)

end FuzzCoverage.Trace

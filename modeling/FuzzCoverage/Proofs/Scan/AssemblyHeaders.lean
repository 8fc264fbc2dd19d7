import FuzzCoverage.Scan.InPlace

/-! # Headers of assembly blocks take the outcome below them

What a row counts with is told by the row and the next one, as the trace has them
(`getElem?_fillAssemblyHeaders`).

The pass that writes over the rows in place comes to the same (`toList_fillInPlace`).  It goes from the
first row to the last but one, so that it has written the rows above a place when it gets there, and
neither the row at the place nor the next one (`getElem_fillFirst`).  In a run of headers each takes what
the trace says of the header below it, and the outcome at the end of the run does not climb
(`fillInPlace_simultaneous`). -/

namespace FuzzCoverage.Scan

open Trace

/-! ## A row and the next one -/

/-- A row with the outcome that it counts with before the next one. -/
def fillHeader (row : Row) (next : Option Row) : Row :=
  match next with
  | none => row
  | some next => if isAssemblyHeader row then row.withOutcomeOf next else row

theorem fillAssemblyHeaders_cons (row : Row) (rows : List Row) :
    fillAssemblyHeaders (row :: rows) = fillHeader row rows.head? :: fillAssemblyHeaders rows := by
  cases rows <;> rfl

@[simp] theorem fillHeader_source (row : Row) (next : Option Row) :
    (fillHeader row next).source = row.source := by
  cases next with
  | none => rfl
  | some next => simp only [fillHeader]; split <;> rfl

@[simp] theorem fillHeader_lineNumber (row : Row) (next : Option Row) :
    (fillHeader row next).lineNumber = row.lineNumber := by
  cases next with
  | none => rfl
  | some next => simp only [fillHeader]; split <;> rfl

theorem fillHeader_of_not_isAssemblyHeader {row : Row} (h : isAssemblyHeader row = false)
    (next : Option Row) : fillHeader row next = row := by
  cases next <;> simp [fillHeader, h]

theorem isAssemblyHeader_of_isActive {row : Row} (h : row.isActive) : isAssemblyHeader row = false := by
  rw [isAssemblyHeader, h]
  rfl

/-- The row after a header matters by its columns only, and a header without one keeps its own. -/
theorem fillHeader_eq {row next : Row} {next? : Option Row}
    (hinstrumentation : (next?.getD row).instrumentation = next.instrumentation)
    (hmarker : (next?.getD row).marker = next.marker) :
    fillHeader row next? = fillHeader row (some next) := by
  cases next? with
  | none =>
    simp only [fillHeader, Row.withOutcomeOf, ← hinstrumentation, ← hmarker, Option.getD_none]
    split <;> rfl
  | some other =>
    simp only [fillHeader, Row.withOutcomeOf, ← hinstrumentation, ← hmarker, Option.getD_some]

theorem getElem?_fillAssemblyHeaders (rows : List Row) (i : Nat) :
    (fillAssemblyHeaders rows)[i]? = rows[i]?.map (fillHeader · rows[i + 1]?) := by
  induction rows generalizing i with
  | nil => rfl
  | cons row rows ih =>
    rw [fillAssemblyHeaders_cons]
    cases i with
    | zero =>
      rw [List.head?_eq_getElem?]
      rfl
    | succ i => exact ih i

theorem map_source_fillAssemblyHeaders (rows : List Row) :
    (fillAssemblyHeaders rows).map Row.source = rows.map Row.source := by
  induction rows with
  | nil => rfl
  | cons row rows ih =>
    rw [fillAssemblyHeaders_cons, List.map_cons, List.map_cons, fillHeader_source, ih]

theorem length_fillAssemblyHeaders (rows : List Row) :
    (fillAssemblyHeaders rows).length = rows.length := by
  induction rows with
  | nil => rfl
  | cons row rows ih => rw [fillAssemblyHeaders_cons, List.length_cons, List.length_cons, ih]

/-! ## What makes a header -/

/-- The header of an assembly block: a row without a counter whose source begins with the letters of the
    word and has an opening brace. -/
structure HeadsAssembly (row : Row) : Prop where
  structural : row.instrumentation = .structural
  word : "assembly".toList <+: row.source
  brace : '\x7b' ∈ row.source

theorem isActive_eq_false_iff {row : Row} : row.isActive = false ↔ row.instrumentation = .structural := by
  rw [Row.isActive]
  cases row.instrumentation <;> simp [Instrumentation.isActive]

theorem isAssemblyHeader_iff {row : Row} : isAssemblyHeader row ↔ HeadsAssembly row := by
  simp only [isAssemblyHeader, Bool.and_eq_true, Bool.not_eq_true', isActive_eq_false_iff,
    List.isPrefixOf_iff_prefix, List.contains_iff_mem]
  exact ⟨fun ⟨⟨structural, word⟩, brace⟩ => ⟨structural, word, brace⟩,
    fun ⟨structural, word, brace⟩ => ⟨⟨structural, word⟩, brace⟩⟩

theorem fillHeader_of_headsAssembly {row : Row} (h : HeadsAssembly row) (next : Row) :
    fillHeader row (some next) = row.withOutcomeOf next :=
  if_pos (isAssemblyHeader_iff.2 h)

theorem fillHeader_of_not_headsAssembly {row : Row} (h : ¬HeadsAssembly row) (next : Option Row) :
    fillHeader row next = row :=
  fillHeader_of_not_isAssemblyHeader (Bool.eq_false_iff.2 (mt isAssemblyHeader_iff.1 h)) next

/-! ## In place -/

section

variable {n : Nat} {rows : Vector Row n} {i : Nat}

theorem getElem_fillPlace {place : Nat} (h : place + 1 < n) (hi : i < n) :
    (fillPlace rows place h)[i] = if i = place then fillHeader rows[i] rows[i + 1]? else rows[i] := by
  rw [fillPlace]
  by_cases hplace : i = place
  · subst hplace
    rw [if_pos rfl, Vector.getElem?_eq_getElem h, fillHeader]
    split
    · rw [Vector.getElem_set_self]
    · rfl
  · rw [if_neg hplace]
    split
    · rw [Vector.getElem_set_ne _ _ (Ne.symm hplace)]
    · rfl

/-- The places that were gone over hold what their rows and the next ones made in the beginning, and the
    others are as they were. -/
theorem getElem_fillFirst {count : Nat} (h : count ≤ n - 1) (hi : i < n) :
    (fillFirst rows count h)[i] = if i < count then fillHeader rows[i] rows[i + 1]? else rows[i] := by
  induction count generalizing i with
  | zero => rfl
  | succ count ih =>
    have hbefore : count ≤ n - 1 := Nat.le_of_succ_le h
    have hstep : fillFirst rows (count + 1) h =
        fillPlace (fillFirst rows count hbefore) count (by omega) := rfl
    rw [hstep, getElem_fillPlace]
    by_cases hplace : i = count
    · -- neither the row that is read here nor the next one has been written
      subst hplace
      have hrow : (fillFirst rows i hbefore)[i] = rows[i] := by rw [ih hbefore, if_neg (by omega)]
      have hnext : (fillFirst rows i hbefore)[i + 1]? = rows[i + 1]? := by
        rw [Vector.getElem?_eq_getElem (by omega), Vector.getElem?_eq_getElem (by omega), ih hbefore,
          if_neg (by omega)]
      rw [if_pos rfl, if_pos (Nat.lt_succ_self i), hrow, hnext]
    · have hcount : i < count + 1 ↔ i < count := by omega
      rw [if_neg hplace, ih hbefore]
      simp only [hcount]

theorem getElem_fillInPlace (hi : i < n) :
    (fillInPlace rows)[i] = fillHeader rows[i] rows[i + 1]? := by
  rw [fillInPlace, getElem_fillFirst]
  split
  · rfl
  · have hlast : rows[i + 1]? = none := Vector.getElem?_eq_none (by omega)
    rw [hlast]
    rfl

theorem toList_fillInPlace (rows : Vector Row n) :
    (fillInPlace rows).toList = fillAssemblyHeaders rows.toList := by
  apply List.ext_getElem?
  intro i
  rw [getElem?_fillAssemblyHeaders, Vector.getElem?_toList, Vector.getElem?_toList, Vector.getElem?_toList]
  by_cases hi : i < n
  · rw [Vector.getElem?_eq_getElem hi, Vector.getElem?_eq_getElem hi, getElem_fillInPlace hi]
    rfl
  · have hfilled : (fillInPlace rows)[i]? = none := Vector.getElem?_eq_none (Nat.le_of_not_lt hi)
    have hrow : rows[i]? = none := Vector.getElem?_eq_none (Nat.le_of_not_lt hi)
    rw [hfilled, hrow]
    rfl

/-- **Headers are filled all at once.**  The pass that writes over the rows one after another makes the
    rows that a file is scanned with, as many as there were.  Each keeps its line number and its source.
    A header of an assembly block that has a row below it takes the instrumentation and the marker which
    that row had before the pass, and every other row is left as it was.  So the state of a row shows in
    its own place and in the one above it, and does not climb any further along a run of headers. -/
theorem fillInPlace_simultaneous (rows : Vector Row n) :
    (fillInPlace rows).toList = fillAssemblyHeaders rows.toList ∧
      (fillAssemblyHeaders rows.toList).length = rows.toList.length ∧
      ∀ (i : Nat) (hi : i < n),
        (fillInPlace rows)[i].lineNumber = rows[i].lineNumber ∧
        (fillInPlace rows)[i].source = rows[i].source ∧
        (∀ hnext : i + 1 < n, HeadsAssembly rows[i] →
          (fillInPlace rows)[i].instrumentation = rows[i + 1].instrumentation ∧
            (fillInPlace rows)[i].marker = rows[i + 1].marker) ∧
        (¬(HeadsAssembly rows[i] ∧ i + 1 < n) → (fillInPlace rows)[i] = rows[i]) ∧
        ∀ (j : Nat) (hj : j < n) (other : Row), j ≠ i → j ≠ i + 1 →
          (fillInPlace (rows.set j other))[i] = (fillInPlace rows)[i] := by
  refine ⟨toList_fillInPlace rows, length_fillAssemblyHeaders rows.toList, fun i hi => ?_⟩
  have hrow : (fillInPlace rows)[i] = fillHeader rows[i] rows[i + 1]? := getElem_fillInPlace hi
  refine ⟨?_, ?_, fun hnext hheader => ?_, fun hother => ?_, fun j hj other hown hnext => ?_⟩
  · rw [hrow, fillHeader_lineNumber]
  · rw [hrow, fillHeader_source]
  · rw [hrow, Vector.getElem?_eq_getElem hnext, fillHeader_of_headsAssembly hheader]
    exact ⟨rfl, rfl⟩
  · rw [hrow]
    by_cases hheader : HeadsAssembly rows[i]
    · have hlast : rows[i + 1]? = none :=
        Vector.getElem?_eq_none (Nat.le_of_not_lt fun hnext => hother ⟨hheader, hnext⟩)
      rw [hlast]
      rfl
    · exact fillHeader_of_not_headsAssembly hheader _
  · rw [hrow, getElem_fillInPlace hi, Vector.getElem_set_ne _ _ hown, Vector.getElem?_set_ne _ hnext]

end

/-- Two headers, one below the other, before a row that was reached and failed. -/
def stackedHeaders : Vector Row 3 :=
  #v[⟨some 4, .structural, .covered, "assembly \x7b".toList⟩,
    ⟨some 5, .structural, .unmarked, "assembly (\"memory-safe\") \x7b".toList⟩,
    ⟨some 6, .hits 2, .reverted, "sstore(0, 1)".toList⟩]

theorem fillInPlace_stackedHeaders :
    HeadsAssembly stackedHeaders[0] ∧ HeadsAssembly stackedHeaders[1] ∧
      (fillInPlace stackedHeaders)[0].instrumentation = .structural ∧
      (fillInPlace stackedHeaders)[0].marker = .unmarked ∧
      (fillInPlace stackedHeaders)[1].instrumentation = .hits 2 ∧
      (fillInPlace stackedHeaders)[1].marker = .reverted ∧
      (fillInPlace stackedHeaders)[2] = stackedHeaders[2] := by
  have hfirst : HeadsAssembly stackedHeaders[0] := ⟨by decide, by decide, by decide⟩
  have hsecond : HeadsAssembly stackedHeaders[1] := ⟨by decide, by decide, by decide⟩
  obtain ⟨-, -, hrows⟩ := fillInPlace_simultaneous stackedHeaders
  obtain ⟨-, -, habove, -, -⟩ := hrows 0 (by decide)
  obtain ⟨-, -, hbelow, -, -⟩ := hrows 1 (by decide)
  obtain ⟨-, -, -, hlast, -⟩ := hrows 2 (by decide)
  exact ⟨hfirst, hsecond, (habove (by decide) hfirst).1, (habove (by decide) hfirst).2,
    (hbelow (by decide) hsecond).1, (hbelow (by decide) hsecond).2, hlast (by simp)⟩

/-- From the last row upwards the outcome would climb over the whole run. -/
example : (fillPlace (fillPlace stackedHeaders 1 (by decide)) 0 (by decide))[0].marker = .reverted := by
  decide

end FuzzCoverage.Scan

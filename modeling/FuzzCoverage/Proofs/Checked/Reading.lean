import FuzzCoverage.Checked.Analysis
import FuzzCoverage.Proofs.Scan.AssemblyHeaders
import FuzzCoverage.Proofs.SourcePath
import FuzzCoverage.Proofs.Trace.Grouping

/-! # Reading a trace with every operation checked

No marker is too short for its key, no line is added to a segment that is not there, no row is shorter
than its columns, and no header of an assembly block is the last row that is looked at.  So the checked
stages that divide a trace into files and read their rows agree with the others:

* `segments_eq` — for any trace; the list of segments and the places of their keys stay in step
  (`Files.Indexed`), from line to line;
* `readRow_eq` — for a row that fits a word: the columns are parts of the row, so that the source of the
  legacy layout begins where the columns before it end (`legacySource_eq`);
* `fillAssemblyHeaders_eq` — for rows that a word can count, by way of the pass that writes over the rows
  in place. -/

namespace FuzzCoverage.Checked

open Decimal (word64)
open Scan Trace

/-! ## Markers -/

theorem key_eq {path : SourcePath} (h : 2 ≤ path.parts.length) : key path = .ok path.key := by
  obtain ⟨front, directory, name, hparts⟩ := SourcePath.exists_eq_append_pair h
  have hlength : path.parts.length = front.length + 2 := by simp [hparts]
  have hdirectory : path.parts[path.parts.length - 2]? = some directory := by
    rw [hlength, Nat.add_sub_cancel, hparts]
    simp
  have hname : path.parts[path.parts.length - 1]? = some name := by
    rw [hlength, Nat.add_succ_sub_one, hparts]
    simp
  rw [key, sub_eq h, ok_bind, entry_eq hdirectory, ok_bind, sub_eq (by omega), ok_bind, entry_eq hname,
    ok_bind, SourcePath.join_pair, SourcePath.key_of_parts hparts]
  rfl

example : key ⟨"Pool.sol".toList⟩ = .error .underflow := by decide

theorem marker?_eq (line : Text) :
    marker? line = .ok ((SourcePath.ofMarker? line).map fun path => (path, path.key)) := by
  rw [marker?, SourcePath.ofMarker?]
  cases hfull : line.trimEnd with
  | nil => rfl
  | cons c rest =>
    by_cases hc : c = '/'
    · subst hc
      have hrest : fromByte 1 ('/' :: rest) = .ok rest := Text.fromByte_append ['/'] rest
      by_cases hslash : '/' ∈ rest
      · simp [hrest, hslash, key_eq (SourcePath.two_le_length_parts hslash)]
      · simp [hrest, hslash]
    · simp [hc]

/-! ## Entries of a list -/

section

variable {α β : Type} {l : List α} {a b : α} {i : Nat}

theorem getElem?_concat_iff : (l ++ [a])[i]? = some b ↔ l[i]? = some b ∨ i = l.length ∧ a = b := by
  rcases Nat.lt_trichotomy i l.length with hlt | rfl | hgt
  · simp [List.getElem?_append_left hlt, Nat.ne_of_lt hlt]
  · simp
  · have hbefore : l[i]? = none := List.getElem?_eq_none (Nat.le_of_lt hgt)
    have hafter : (l ++ [a])[i]? = none := by
      rw [List.getElem?_eq_none_iff, List.length_append]
      exact hgt
    simp [hbefore, hafter, Nat.ne_of_gt hgt]

theorem modify_concat (l : List α) (a : α) (f : α → α) : (l ++ [a]).modify l.length f = l ++ [f a] := by
  induction l with
  | nil => rfl
  | cons b l ih => simp [ih]

theorem map_modify {f : α → α} {g : α → β} (h : ∀ a, g (f a) = g a) (l : List α) (i : Nat) :
    (l.modify i f).map g = l.map g := by
  apply List.ext_getElem?
  intro j
  rw [List.getElem?_map, List.getElem?_modify, List.getElem?_map]
  cases l[j]? with
  | none => rfl
  | some a =>
    simp only [Option.map_eq_map, Option.map_some]
    split
    · rw [h]
    · rfl

end

/-! ## Files -/

namespace Files

variable {files : Files}

/-- The places are those of the keys in the list of segments, and the segment that lines belong to is
    in the list. -/
structure Indexed (files : Files) : Prop where
  places : ∀ key place,
    files.places.lookup key = some place ↔ (files.segments.map Segment.key)[place]? = some key
  current : ∀ place, files.current = some place → place < files.segments.length

/-- The segments once more lines have been added to the one that lines belong to. -/
def continued (files : Files) (lines : List Text) : List Segment :=
  match files.current with
  | none => files.segments
  | some place => files.segments.modify place fun s => { s with lines := s.lines ++ lines }

/-- A line is read in range, and the segments go on so with the lines that are added after it. -/
def GoesOnAs (read : Except Fault Files) (segments : List Text → List Segment) : Prop :=
  ∃ next, read = .ok next ∧ next.Indexed ∧ ∀ lines, next.continued lines = segments lines

theorem continued_nil (files : Files) : files.continued [] = files.segments := by
  rw [continued]
  cases files.current with
  | none => rfl
  | some place =>
    apply List.ext_getElem?
    intro i
    rw [List.getElem?_modify]
    cases files.segments[i]? <;> simp

/-- Only the segment at its place has a key. -/
theorem Indexed.segment_key (h : files.Indexed) {key : Text} {place i : Nat} {s : Segment}
    (hplace : files.places.lookup key = some place) (hs : files.segments[i]? = some s) :
    s.key = key ↔ place = i := by
  constructor
  · rintro rfl
    have hi : files.places.lookup s.key = some i := (h.places _ _).2 (by simp [hs])
    rw [hplace] at hi
    exact Option.some.inj hi
  · rintro rfl
    have hkey := (h.places _ _).1 hplace
    rw [List.getElem?_map, hs] at hkey
    exact Option.some.inj hkey

/-- A file that has been visited before goes on at its place, where `insert` finds it by its key. -/
theorem Indexed.visit_old (h : files.Indexed) (path : SourcePath) {place : Nat}
    (hplace : files.places.lookup path.key = some place) :
    GoesOnAs (files.visit path path.key) fun lines => Trace.insert files.segments ⟨path, lines⟩ := by
  have hkey := (h.places _ _).1 hplace
  obtain ⟨s, hs, -⟩ : ∃ s, files.segments[place]? = some s ∧ s.key = path.key := by
    rwa [List.getElem?_map, Option.map_eq_some_iff] at hkey
  refine ⟨{ files with current := some place }, ?_, ⟨h.places, ?_⟩, fun lines => ?_⟩
  · simp [visit, hplace, entry_eq hs]
  · intro place' heq
    rw [← Option.some.inj heq]
    exact (List.getElem?_eq_some_iff.1 hs).1
  · have hmem : Segment.key ⟨path, lines⟩ ∈ files.segments.map Segment.key := List.mem_of_getElem? hkey
    have hinsert : Trace.insert files.segments ⟨path, lines⟩ = files.segments.map _ :=
      if_pos (any_key_iff.2 hmem)
    refine Eq.trans ?_ hinsert.symm
    -- the segments of the list are compared one by one
    apply List.ext_getElem?
    intro i
    simp only [continued, List.getElem?_modify, List.getElem?_map]
    cases hi : files.segments[i]? with
    | none => rfl
    | some t =>
      have hsame : t.key = path.key ↔ place = i := h.segment_key hplace hi
      simp only [Option.map_eq_map, Option.map_some, ← hsame]
      rfl

/-- A new file has its place at the end. -/
theorem Indexed.visit_new (h : files.Indexed) (path : SourcePath)
    (hplace : files.places.lookup path.key = none) :
    GoesOnAs (files.visit path path.key) fun lines => Trace.insert files.segments ⟨path, lines⟩ := by
  have hnew : ∀ place : Nat, (files.segments.map Segment.key)[place]? ≠ some path.key := by
    intro place heq
    rw [(h.places _ _).2 heq] at hplace
    cases hplace
  let first : Segment := ⟨path, []⟩
  have hlast : (files.segments ++ [first])[files.segments.length]? = some first :=
    List.getElem?_concat_length
  have hsub : sub (files.segments ++ [first]).length 1 = .ok files.segments.length := by
    rw [List.length_append]
    exact sub_eq (Nat.le_add_left 1 _)
  refine ⟨⟨files.segments ++ [first], (path.key, files.segments.length) :: files.places,
    some files.segments.length⟩, ?_, ⟨fun key place => ?_, by simp⟩, fun lines => ?_⟩
  · rw [visit, hplace]
    show (sub (files.segments ++ [first]).length 1 >>= _) = _
    rw [hsub, ok_bind, entry_eq hlast]
    rfl
  · rw [List.lookup_cons, List.map_append, List.map_singleton, getElem?_concat_iff, List.length_map]
    by_cases hkey : key = path.key
    · subst hkey
      simp only [hnew place, beq_self_eq_true, Option.some.injEq, false_or]
      exact ⟨fun heq => ⟨heq.symm, rfl⟩, fun heq => heq.1.symm⟩
    · have hbeq : (key == path.key) = false := beq_eq_false_iff_ne.2 hkey
      have hother : first.key ≠ key := fun heq => hkey heq.symm
      simp [hbeq, hother, h.places]
  · have hnotMem : Segment.key ⟨path, lines⟩ ∉ files.segments.map Segment.key := by
      intro hmem
      obtain ⟨place, heq⟩ := List.mem_iff_getElem?.1 hmem
      exact hnew place heq
    have hinsert : Trace.insert files.segments ⟨path, lines⟩ = files.segments ++ [⟨path, lines⟩] :=
      if_neg (mt any_key_iff.1 hnotMem)
    exact (modify_concat files.segments first _).trans hinsert.symm

/-- A visit begins a section, which has the lines that follow. -/
theorem Indexed.visit (h : files.Indexed) (path : SourcePath) :
    GoesOnAs (files.visit path path.key) fun lines => Trace.insert files.segments ⟨path, lines⟩ := by
  cases hplace : files.places.lookup path.key with
  | none => exact h.visit_new path hplace
  | some place => exact h.visit_old path hplace

theorem Indexed.append (h : files.Indexed) (line : Text) :
    GoesOnAs (files.append line) fun lines => files.continued (line :: lines) := by
  cases hcurrent : files.current with
  | none => exact ⟨files, by simp [Files.append, hcurrent], h, fun lines => by simp [continued, hcurrent]⟩
  | some place =>
    obtain ⟨s, hs⟩ : ∃ s, files.segments[place]? = some s :=
      ⟨_, List.getElem?_eq_getElem (h.current place hcurrent)⟩
    have hkeys : (files.segments.modify place fun s => ⟨s.path, s.lines ++ [line]⟩).map Segment.key =
        files.segments.map Segment.key := by
      apply map_modify
      intro s
      rfl
    refine ⟨{ files with segments := files.segments.modify place fun s => ⟨s.path, s.lines ++ [line]⟩ },
      ?_, ⟨fun key place' => ?_, ?_⟩, fun lines => ?_⟩
    · rw [List.modify_eq_set_getElem?, hs]
      simp [Files.append, hcurrent, entry_eq hs]
    · rw [h.places, hkeys]
    · simpa using h.current
    · simp [continued, hcurrent, List.modify_modify_eq, Function.comp_def]

/-- A marker begins a section of its file, or leaves lines to none; any other line is added to the file
    that was visited last. -/
theorem Indexed.read (h : files.Indexed) (o : Options) (line : Text) :
    GoesOnAs (files.read o line) fun lines =>
      match SourcePath.ofMarker? line with
      | none => files.continued (line :: lines)
      | some path =>
        if isKept o path then Trace.insert files.segments ⟨path, lines⟩ else files.segments := by
  rw [Files.read, marker?_eq, ok_bind]
  cases hmarker : SourcePath.ofMarker? line with
  | none => exact h.append line
  | some path =>
    by_cases hkept : isKept o path
    · simpa only [Option.map_some, hkept, if_true] using h.visit path
    · exact ⟨{ files with current := none }, by simp [hkept], ⟨h.places, by simp⟩, by simp [continued, hkept]⟩

/-- Over many lines, each section of a file that is kept is put in its place. -/
theorem Indexed.foldlM_read (h : files.Indexed) (o : Options) (lines : List Text) :
    ∃ final, lines.foldlM (Files.read o) files = .ok final ∧
      final.segments = ((sections lines).filter (isKept o ·.path)).foldl Trace.insert
        (files.continued (lines.takeWhile (!SourcePath.isMarker ·))) := by
  induction lines generalizing files with
  | nil => exact ⟨files, rfl, (continued_nil files).symm⟩
  | cons line lines ih =>
    obtain ⟨next, hnext, hindexed, hcontinued⟩ := h.read o line
    obtain ⟨final, hfinal, hsegments⟩ := ih hindexed
    refine ⟨final, by rw [List.foldlM_cons, hnext, ok_bind, hfinal], ?_⟩
    rw [hsegments, hcontinued]
    cases hmarker : SourcePath.ofMarker? line with
    | none => simp [sections, hmarker, SourcePath.isMarker]
    | some path =>
      -- what is left of the lines before the first marker is empty
      by_cases hkept : isKept o path
      · simp [sections, hmarker, SourcePath.isMarker, hkept, continued_nil]
      · simp [sections, hmarker, SourcePath.isMarker, hkept, continued_nil]

end Files

theorem segments_eq (o : Options) (trace : Text) : segments o trace = .ok (Trace.segments o trace) := by
  have hempty : Files.Indexed {} := ⟨by simp, by simp⟩
  obtain ⟨final, hfinal, hsegments⟩ := hempty.foldlM_read o trace.lines
  rw [segments, hfinal, ok_bind, hsegments]
  rfl

/-! ## Rows -/

/-- The columns from the third one on are the end of the row. -/
theorem legacySource_eq {before rest third : Text} {fourth : Option Text}
    (h : (before ++ rest).byteCount < word64)
    (hrest : rest = third ++ fourth.elim [] fun column => '|' :: column) :
    legacySource (before ++ rest) third fourth = .ok rest := by
  have hdivider : Char.utf8Size '|' = 1 := by decide
  have hcut : fromByte before.byteCount (before ++ rest) = .ok rest := Text.fromByte_append before rest
  rw [Text.byteCount_append] at h
  rw [legacySource, Text.byteCount_append]
  -- the lengths of the columns are taken off the row from its end
  cases fourth with
  | none =>
    have hthird : rest.byteCount = third.byteCount := by simp [hrest]
    rw [hthird, sub_eq (Nat.le_add_left _ _), Nat.add_sub_cancel]
    simp [sub_eq, hcut]
  | some column =>
    have hthird : rest.byteCount = third.byteCount + (1 + column.byteCount) := by
      simp [hrest, hdivider]
    have hadd : add column.byteCount 1 = .ok (1 + column.byteCount) := by
      rw [add_eq (by omega), Nat.add_comm]
    have hfirst : sub (before.byteCount + rest.byteCount) third.byteCount =
        .ok (before.byteCount + (1 + column.byteCount)) := by
      rw [sub_eq (by omega), hthird]
      congr 1
      omega
    have hsecond : sub (before.byteCount + (1 + column.byteCount)) (1 + column.byteCount) =
        .ok before.byteCount := by
      rw [sub_eq (Nat.le_add_left _ _), Nat.add_sub_cancel]
    simp [hfirst, hadd, hsecond, hcut]

theorem lastColumns_append (rest : Text) :
    rest = (lastColumns rest).1 ++ (lastColumns rest).2.elim [] fun column => '|' :: column := by
  rw [lastColumns]
  cases hcut : rest.cut? '|' with
  | none => simp
  | some cut => exact (Text.append_of_cut? hcut).symm

theorem readRow_eq {row : Text} (h : row.byteCount < word64) : readRow row = .ok (Row.parse? row) := by
  rw [readRow, Row.parse?]
  cases hnumber : row.cut? '|' with
  | none => rfl
  | some cut =>
    obtain ⟨number, columns⟩ := cut
    cases hsecond : columns.cut? '|' with
    | none => simp [hsecond]
    | some cut =>
      obtain ⟨second, rest⟩ := cut
      have hrow : (number ++ '|' :: (second ++ ['|'])) ++ rest = row := by
        rw [← Text.append_of_cut? hnumber, ← Text.append_of_cut? hsecond]
        simp
      rw [← hrow] at h
      have hsource := legacySource_eq h (lastColumns_append rest)
      rw [hrow] at hsource
      simp only [hsource, Option.bind_eq_bind, Option.bind_some, hsecond]
      cases hcounted : Row.ofCounted? (Decimal.readNatural Decimal.word32 number.trim).toOption second rest with
      | some counted => simp
      | none =>
        cases hmarker : Marker.ofColumn? second.trim with
        | none => simp [Row.ofLegacy?, hmarker]
        | some marker => simp [Row.ofLegacy?, hmarker]

/-! ## Headers of assembly blocks -/

section

variable {n : Nat} (rows : Vector Row n)

theorem fillHeader_eq (hn : n < word64) {place : Nat} (h : place + 1 < n) :
    fillHeader rows.toList place = .ok (fillPlace rows place h).toList := by
  have hrow : rows.toList[place]? = some rows[place] := by simp
  have hnext : rows.toList[place + 1]? = some rows[place + 1] := by simp
  rw [fillHeader, entry_eq hrow, ok_bind, fillPlace]
  split
  · rw [add_eq (by omega), ok_bind, entry_eq hnext, ok_bind, Vector.toList_set]
    rfl
  · rfl

theorem foldlM_fillHeader (hn : n < word64) {count : Nat} (h : count ≤ n - 1) :
    (List.range count).foldlM fillHeader rows.toList = .ok (fillFirst rows count h).toList := by
  induction count with
  | zero => rfl
  | succ count ih =>
    rw [List.range_succ, List.foldlM_append, ih (Nat.le_of_succ_le h), ok_bind, List.foldlM_cons,
      fillHeader_eq _ hn (by omega), ok_bind]
    rfl

end

theorem fillAssemblyHeaders_eq {rows : List Row} (h : rows.length < word64) :
    fillAssemblyHeaders rows = .ok (Scan.fillAssemblyHeaders rows) := by
  have hpass := foldlM_fillHeader rows.toArray.toVector h (Nat.le_refl _)
  rw [← fillInPlace, toList_fillInPlace] at hpass
  exact hpass

end FuzzCoverage.Checked

import FuzzCoverage.Proofs.Trace.Grouping
import FuzzCoverage.Report.Basic

/-! # Traces put one after another

The reports on two traces with no file in common are the reports on both put together
(`analyze_append`), wherever the first one stops: in a body, in a heading or in a comment.

Each stage of an analysis takes what is put together apart again: lines (`Text.lines_append`),
sections, segments whose keys differ, and reports, which are made for each file on its own. -/

namespace FuzzCoverage

namespace Trace

theorem takeWhile_append_of_marker {lines rest : List Text} (h : rest.head?.any SourcePath.isMarker) :
    (lines ++ rest).takeWhile (!SourcePath.isMarker ·) = lines.takeWhile (!SourcePath.isMarker ·) := by
  induction lines with
  | nil =>
    cases rest with
    | nil => rfl
    | cons marker rest =>
      have hmarker : SourcePath.isMarker marker = true := h
      simp [hmarker]
  | cons line lines ih => simp [List.takeWhile_cons, ih]

/-- Where a marker stands at the joint, no section reaches across it. -/
theorem sections_append (first : List Text) {second : List Text}
    (h : second.head?.any SourcePath.isMarker) :
    sections (first ++ second) = sections first ++ sections second := by
  induction first with
  | nil => rfl
  | cons line first ih =>
    cases hmarker : SourcePath.ofMarker? line with
    | none => simp [sections, hmarker, ih]
    | some path => simp [sections, hmarker, ih, takeWhile_append_of_marker h]

theorem insert_append {before : List Segment} (groups : List Segment) {s : Segment}
    (h : s.key ∉ before.map Segment.key) : insert (before ++ groups) s = before ++ insert groups s := by
  have hany : before.any (·.key = s.key) = false := Bool.eq_false_iff.2 (mt any_key_iff.1 h)
  simp only [insert, List.any_append, hany, Bool.false_or, List.map_append, map_insert_of_notMem h]
  split
  · rfl
  · exact List.append_assoc _ _ _

theorem foldl_insert_append {before : List Segment} (groups parts : List Segment)
    (h : ∀ s ∈ parts, s.key ∉ before.map Segment.key) :
    parts.foldl insert (before ++ groups) = before ++ parts.foldl insert groups := by
  induction parts generalizing groups with
  | nil => rfl
  | cons s parts ih =>
    obtain ⟨hs, hparts⟩ := List.forall_mem_cons.1 h
    rw [List.foldl_cons, insert_append groups hs, ih _ hparts]
    rfl

/-- Sections without a common key are put together each among their own. -/
theorem gather_append {first second : List Segment}
    (h : ∀ s ∈ first, ∀ t ∈ second, s.key ≠ t.key) :
    gather (first ++ second) = gather first ++ gather second := by
  have hkeys : ∀ t ∈ second, t.key ∉ (gather first).map Segment.key := by
    intro t ht hkey
    rw [(grouped_gather first).keys, List.mem_eraseDups] at hkey
    obtain ⟨s, hs, heq⟩ := List.mem_map.1 hkey
    exact h s hs t ht heq
  have hfold := foldl_insert_append [] second hkeys
  rw [List.append_nil] at hfold
  rw [gather, List.foldl_append]
  exact hfold

theorem path_mem_keptMarkers {o : Options} {lines : List Text} {s : Segment}
    (h : s ∈ (sections lines).filter fun s => isKept o s.path) : s.path ∈ keptMarkers o lines := by
  rw [← map_path_filter_sections]
  exact List.mem_map_of_mem h

theorem segments_append {o : Options} {first second : Text}
    (hfirst : first = [] ∨ first.getLast? = some '\n')
    (hsecond : second.lines.head?.any SourcePath.isMarker)
    (hkeys : ∀ path ∈ keptMarkers o first.lines, ∀ path' ∈ keptMarkers o second.lines,
      path.key ≠ path'.key) :
    segments o (first ++ second) = segments o first ++ segments o second := by
  rw [segments, Text.lines_append hfirst, sections_append _ hsecond, List.filter_append]
  apply gather_append
  intro s hs t ht
  exact hkeys s.path (path_mem_keptMarkers hs) t.path (path_mem_keptMarkers ht)

end Trace

open Trace

/-- **Files do not influence one another.**  A trace that ends at the end of a line, and one that
    begins with a marker and has no file in common with it, are analysed together as they are
    analysed apart: the reports on the first are followed by those on the second. -/
theorem analyze_append (o : Options) {first second : Text}
    (hfirst : first = [] ∨ first.getLast? = some '\n')
    (hsecond : second.lines.head?.any SourcePath.isMarker)
    (hkeys : ∀ path ∈ keptMarkers o first.lines, ∀ path' ∈ keptMarkers o second.lines,
      path.key ≠ path'.key) :
    analyze o (first ++ second) = analyze o first ++ analyze o second := by
  rw [analyze, segments_append hfirst hsecond hkeys, List.map_append]
  rfl

/-- A file that stops in a comment in a body. -/
def cutOffTrace : Text :=
  "/p/src/A.sol\n1|1|*|function f() public \x7b\n2|1|*|x = 1; /* \x7b\n".toList

/-- Another file, and one that is left out although its name is that of the first. -/
def laterTrace : Text :=
  "/p/src/B.sol\n1|1|*|function g() public \x7b y = 1; \x7d\n/p/lib/solady/src/A.sol\n9|1||*/ \x7d\n".toList

theorem analyze_cutOffTrace_append :
    (keptMarkers {} cutOffTrace.lines).map SourcePath.key = ["src/A.sol".toList] ∧
      (keptMarkers {} laterTrace.lines).map SourcePath.key = ["src/B.sol".toList] ∧
      analyze {} (cutOffTrace ++ laterTrace) = analyze {} cutOffTrace ++ analyze {} laterTrace ∧
      (analyze {} (cutOffTrace ++ laterTrace)).map (·.coverage.coveredLines) = [2, 1] := by
  have happend : analyze {} (cutOffTrace ++ laterTrace) = analyze {} cutOffTrace ++ analyze {} laterTrace :=
    analyze_append {} (by decide) (by decide) (by decide)
  refine ⟨by decide, by decide, happend, ?_⟩
  rw [happend]
  decide

end FuzzCoverage

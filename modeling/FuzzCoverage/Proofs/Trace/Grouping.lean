import FuzzCoverage.Trace.Segment
import Mathlib.Data.List.Induction
import Mathlib.Data.List.Infix

/-! # The files of a trace as groups of its lines

`segments` is the stable grouping of the lines of a trace by the key of the marker above them
(`segments_group_lines`).  The grouping is said line by line: `placed` puts each line together with
the lines before it, and `belongsTo` asks for the last marker among those.

What `insert` does to the segments is one step of it (`Grouped.insert`), and `gather` is a run of such
steps (`grouped_gather`); that the sections hold the lines below each marker is shown line by line,
with the lines that have been read so far (`map_fst_filter_isBelow`). -/

namespace FuzzCoverage.Trace

/-! ## Putting sections together -/

/-- The segments are the sections put together by their keys. -/
structure Grouped (parts groups : List Segment) : Prop where
  nodup : (groups.map Segment.key).Nodup
  keys : groups.map Segment.key = (parts.map Segment.key).eraseDups
  path : ∀ s ∈ groups, (parts.map Segment.path).find? (·.key = s.key) = some s.path
  lines : ∀ s ∈ groups, s.lines = (parts.filter (·.key = s.key)).flatMap Segment.lines

variable {parts groups : List Segment} {s t : Segment}

theorem any_key_iff : groups.any (·.key = s.key) ↔ s.key ∈ groups.map Segment.key := by
  simp

theorem keys_insert :
    (insert groups s).map Segment.key =
      if s.key ∈ groups.map Segment.key then groups.map Segment.key
      else groups.map Segment.key ++ [s.key] := by
  simp only [insert, any_key_iff]
  split
  · rw [List.map_map]
    apply List.map_congr_left
    intro u _
    show (if u.key = s.key then _ else u).key = u.key
    split <;> rfl
  · simp

theorem map_insert_of_notMem (h : s.key ∉ groups.map Segment.key) :
    (groups.map fun t => if t.key = s.key then { t with lines := t.lines ++ s.lines } else t) =
      groups := by
  conv_rhs => rw [← List.map_id groups]
  refine List.map_congr_left fun t ht => if_neg ?_
  rintro heq
  exact h (heq ▸ List.mem_map_of_mem ht)

/-- A segment after one more section: one from before, with the lines of the section if it has its
    key, or the section itself, whose key is new. -/
theorem mem_insert (h : t ∈ insert groups s) :
    (∃ u ∈ groups, t.path = u.path ∧ t.lines = u.lines ++ if u.key = s.key then s.lines else []) ∨
      t = s ∧ s.key ∉ groups.map Segment.key := by
  simp only [insert, any_key_iff] at h
  split at h
  · left
    obtain ⟨u, hu, rfl⟩ := List.mem_map.1 h
    refine ⟨u, hu, ?_⟩
    split <;> simp
  · rename_i hnew
    rcases List.mem_append.1 h with hold | hlast
    · left
      have hother : t.key ≠ s.key := by
        intro heq
        exact hnew (heq ▸ List.mem_map_of_mem hold)
      exact ⟨t, hold, rfl, by simp [hother]⟩
    · exact Or.inr ⟨List.mem_singleton.1 hlast, hnew⟩

theorem key_eq_of_path_eq (h : t.path = s.path) : t.key = s.key := congrArg SourcePath.key h

theorem Grouped.find?_eq_none (h : Grouped parts groups) {key : Text}
    (hnew : key ∉ groups.map Segment.key) :
    (parts.map Segment.path).find? (·.key = key) = none ∧ parts.filter (·.key = key) = [] := by
  rw [h.keys, List.mem_eraseDups] at hnew
  have hother : ∀ part ∈ parts, part.key ≠ key := by
    rintro part hpart rfl
    exact hnew (List.mem_map_of_mem hpart)
  constructor
  · rw [List.find?_eq_none]
    intro path hpath
    obtain ⟨part, hpart, rfl⟩ := List.mem_map.1 hpath
    exact fun heq => hother part hpart (of_decide_eq_true heq)
  · rw [List.filter_eq_nil_iff]
    exact fun part hpart heq => hother part hpart (of_decide_eq_true heq)

/-- One more section keeps the groups grouped. -/
theorem Grouped.insert (h : Grouped parts groups) (s : Segment) :
    Grouped (parts ++ [s]) (insert groups s) where
  nodup := by
    rw [keys_insert]
    split
    · exact h.nodup
    · rename_i hnew
      exact List.nodup_append.2 ⟨h.nodup, by simp, by
        intro key hkey key' hkey' heq
        obtain rfl := List.mem_singleton.1 hkey'
        exact hnew (heq ▸ hkey)⟩
  keys := by
    rw [keys_insert, List.map_append, List.eraseDups_append, ← h.keys]
    have hmem : s.key ∈ groups.map Segment.key ↔ s.key ∈ parts.map Segment.key := by
      rw [h.keys, List.mem_eraseDups]
    have hlast : ([s].map Segment.key).removeAll (parts.map Segment.key) =
        if s.key ∈ parts.map Segment.key then [] else [s.key] := by
      simp only [List.map_cons, List.map_nil, List.removeAll, List.filter_cons, List.filter_nil]
      split <;> simp_all
    rw [hlast]
    by_cases hold : s.key ∈ parts.map Segment.key
    · rw [if_pos hold, if_pos (hmem.2 hold)]
      simp
    · rw [if_neg hold, if_neg (mt hmem.1 hold)]
      simp [List.eraseDups_cons]
  path := by
    intro t ht
    rw [List.map_append, List.find?_append]
    rcases mem_insert ht with ⟨u, hu, hpath, -⟩ | ⟨rfl, hnew⟩
    · rw [key_eq_of_path_eq hpath, h.path u hu, hpath]
      rfl
    · rw [(h.find?_eq_none hnew).1]
      simp [Segment.key]
  lines := by
    intro t ht
    rw [List.filter_append, List.flatMap_append]
    rcases mem_insert ht with ⟨u, hu, hpath, hlines⟩ | ⟨rfl, hnew⟩
    · rw [key_eq_of_path_eq hpath, hlines, h.lines u hu]
      by_cases hkey : u.key = s.key
      · simp [hkey]
      · simp [hkey, Ne.symm hkey]
    · rw [(h.find?_eq_none hnew).2]
      simp

theorem gather_concat (parts : List Segment) (s : Segment) :
    gather (parts ++ [s]) = insert (gather parts) s := by
  simp [gather]

theorem grouped_gather (parts : List Segment) : Grouped parts (gather parts) := by
  induction parts using List.reverseRecOn with
  | nil => exact ⟨by simp [gather], rfl, by simp [gather], by simp [gather]⟩
  | append_singleton parts s ih =>
    rw [gather_concat]
    exact ih.insert s

/-! ## The lines below each marker -/

def lastMarker? (lines : List Text) : Option SourcePath :=
  (lines.filterMap SourcePath.ofMarker?).getLast?

/-- Each line with the lines before it. -/
def placed (lines : List Text) : List (Text × List Text) := lines.zip lines.inits

theorem placed_cons (line : Text) (lines : List Text) :
    placed (line :: lines) =
      (line, []) :: (placed lines).map fun place => (place.1, line :: place.2) := by
  simp [placed, List.zip_map_right]

theorem map_path_sections (lines : List Text) :
    (sections lines).map Segment.path = lines.filterMap SourcePath.ofMarker? := by
  induction lines with
  | nil => rfl
  | cons line lines ih =>
    cases hmarker : SourcePath.ofMarker? line with
    | none => simp [sections, hmarker, ih]
    | some path => simp [sections, hmarker, ih]

/-- Whether a line is no marker and stands below one that is asked for, with no other between. -/
def isBelow (asked : SourcePath → Bool) (place : Text × List Text) : Bool :=
  !SourcePath.isMarker place.1 && (lastMarker? place.2).any asked

theorem lastMarker?_concat (lines : List Text) (line : Text) :
    lastMarker? (lines ++ [line]) = (SourcePath.ofMarker? line).or (lastMarker? lines) := by
  cases hmarker : SourcePath.ofMarker? line with
  | none => simp [lastMarker?, hmarker]
  | some path => simp [lastMarker?, hmarker]

/-- The lines below the markers that are asked for are those of their sections, after the ones that
    come before the first marker and belong to the last marker of what was read earlier. -/
theorem map_fst_filter_isBelow (asked : SourcePath → Bool) (before lines : List Text) :
    ((placed lines).filter fun place => isBelow asked (place.1, before ++ place.2)).map Prod.fst =
      (if (lastMarker? before).any asked then lines.takeWhile (!SourcePath.isMarker ·) else []) ++
        ((sections lines).filter (asked ·.path)).flatMap Segment.lines := by
  induction lines generalizing before with
  | nil => simp [placed, sections]
  | cons line lines ih =>
    have hrest := ih (before ++ [line])
    simp only [List.append_assoc, List.singleton_append] at hrest
    rw [placed_cons, List.filter_cons, List.append_nil, List.filter_map]
    cases hmarker : SourcePath.ofMarker? line with
    | none =>
      have hline : SourcePath.isMarker line = false := by simp [SourcePath.isMarker, hmarker]
      have habove : lastMarker? (before ++ [line]) = lastMarker? before := by
        simp [lastMarker?_concat, hmarker]
      rw [habove] at hrest
      by_cases hasked : (lastMarker? before).any asked
      · simpa [isBelow, hasked, hline, sections, hmarker, Function.comp_def] using hrest
      · simpa [isBelow, hasked, hline, sections, hmarker, Function.comp_def] using hrest
    | some path =>
      have hline : SourcePath.isMarker line = true := by simp [SourcePath.isMarker, hmarker]
      have habove : lastMarker? (before ++ [line]) = some path := by
        simp [lastMarker?_concat, hmarker]
      rw [habove] at hrest
      by_cases hasked : asked path
      · simpa [isBelow, hline, sections, hmarker, hasked, Function.comp_def] using hrest
      · simpa [isBelow, hline, sections, hmarker, hasked, Function.comp_def] using hrest

/-! ## The files of a trace -/

theorem isKept_iff (o : Options) (path : SourcePath) :
    isKept o path ↔ ∀ reason, Exclusion.applies o path reason = false := by
  rw [isKept, Exclusion.of?, Option.isNone_iff_eq_none, List.find?_eq_none]
  constructor
  · intro h reason
    have hmem : reason ∈ Exclusion.inOrder := by cases reason <;> decide
    simpa using h reason hmem
  · intro h reason _
    simp [h reason]

/-- The markers of the files that are not left out. -/
def keptMarkers (o : Options) (lines : List Text) : List SourcePath :=
  (lines.filterMap SourcePath.ofMarker?).filter (isKept o)

/-- Whether a line belongs to a file of this key that is not left out. -/
def belongsTo (o : Options) (key : Text) : Text × List Text → Bool :=
  isBelow fun path => isKept o path && path.key = key

theorem map_path_filter_sections (o : Options) (lines : List Text) :
    ((sections lines).filter fun s => isKept o s.path).map Segment.path = keptMarkers o lines := by
  rw [keptMarkers, ← map_path_sections, List.filter_map]
  rfl

theorem keys_segments (o : Options) (trace : Text) :
    (segments o trace).map Segment.key = ((keptMarkers o trace.lines).map SourcePath.key).eraseDups := by
  have hgrouped := grouped_gather ((sections trace.lines).filter fun s => isKept o s.path)
  rw [segments, hgrouped.keys, ← map_path_filter_sections, List.map_map]
  rfl

theorem prefix_of_mem_placed {lines : List Text} {place : Text × List Text}
    (h : place ∈ placed lines) : place.2 <+: lines :=
  (List.mem_inits _ _).1 (List.of_mem_zip h).2

theorem mem_keptMarkers_of_lastMarker? {o : Options} {lines before : List Text} {path : SourcePath}
    (hbefore : before <+: lines) (hlast : lastMarker? before = some path) (hkept : isKept o path) :
    path ∈ keptMarkers o lines := by
  obtain ⟨rest, rfl⟩ := hbefore
  have hmem : path ∈ before.filterMap SourcePath.ofMarker? := List.mem_of_getLast? hlast
  rw [keptMarkers, List.filterMap_append]
  exact List.mem_filter.2 ⟨List.mem_append_left _ hmem, hkept⟩

/-- **The files of a trace are its lines, grouped by the markers above them.**  No two files have one
    key, and the keys are those of the markers that are not left out, each where it first occurs.  A
    file has the first of these markers with its key as its path, and in their order the lines that
    belong to its key.  A line belongs to a file exactly when it is no marker and the last marker
    before it is there and not left out. -/
theorem segments_group_lines (o : Options) (trace : Text) :
    ((segments o trace).map Segment.key).Nodup ∧
      (segments o trace).map Segment.key =
        ((keptMarkers o trace.lines).map SourcePath.key).eraseDups ∧
      (∀ s ∈ segments o trace,
        (keptMarkers o trace.lines).find? (·.key = s.key) = some s.path ∧
        s.lines = ((placed trace.lines).filter (belongsTo o s.key)).map Prod.fst) ∧
      ∀ place ∈ placed trace.lines,
        (∃ s ∈ segments o trace, belongsTo o s.key place) ↔
          SourcePath.isMarker place.1 = false ∧
            ∃ path, lastMarker? place.2 = some path ∧ isKept o path := by
  have hgrouped := grouped_gather ((sections trace.lines).filter fun s => isKept o s.path)
  rw [← segments] at hgrouped
  have hpaths := map_path_filter_sections o trace.lines
  have hkeys := keys_segments o trace
  refine ⟨hgrouped.nodup, hkeys, ?_, ?_⟩
  · intro s hs
    refine ⟨hpaths ▸ hgrouped.path s hs, ?_⟩
    rw [hgrouped.lines s hs, List.filter_filter]
    have hbelow := map_fst_filter_isBelow (fun path => isKept o path && path.key = s.key) [] trace.lines
    simp only [lastMarker?, List.nil_append, List.filterMap_nil, List.getLast?_nil] at hbelow
    have hsame : ∀ part ∈ sections trace.lines,
        (decide (part.key = s.key) && isKept o part.path) =
          (isKept o part.path && decide (part.path.key = s.key)) :=
      fun part _ => Bool.and_comm _ _
    rw [belongsTo, hbelow, List.filter_congr hsame]
    rfl
  · intro place hplace
    simp only [belongsTo, isBelow, Bool.and_eq_true, Bool.not_eq_true', Option.any_eq_true,
      decide_eq_true_eq]
    constructor
    · rintro ⟨s, -, hmarker, path, hlast, hkept, -⟩
      exact ⟨hmarker, path, hlast, hkept⟩
    · rintro ⟨hmarker, path, hlast, hkept⟩
      -- the key of a marker that is kept is the key of some file
      have hmem : path.key ∈ (segments o trace).map Segment.key := by
        rw [hkeys, List.mem_eraseDups]
        exact List.mem_map_of_mem
          (mem_keptMarkers_of_lastMarker? (prefix_of_mem_placed hplace) hlast hkept)
      obtain ⟨s, hs, hkey⟩ := List.mem_map.1 hmem
      exact ⟨s, hs, hmarker, path, hlast, hkept, hkey.symm⟩

end FuzzCoverage.Trace

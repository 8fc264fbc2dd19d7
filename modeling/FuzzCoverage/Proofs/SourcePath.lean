import FuzzCoverage.SourcePath
import Mathlib.Data.List.Basic

/-! # Paths with empty parts

A path is cut at its slashes in several ways: its key and the name of its file keep the parts that are
empty, its segments and directories do not.  All of them agree (`SourcePath.ReadsAsPath`) where the last
two parts of the path are names, and only there (`SourcePath.readsAsPath_iff`): a slash at the end, or two
of them in front of the last part, take them apart.  An empty part further to the left does not matter. -/

namespace FuzzCoverage.SourcePath

/-- A line is read for the path that stands on it: it is a marker if it holds an absolute path of two
    segments or more, its segments are its directories and the name of its file, and its key is made of
    the last two segments. -/
structure ReadsAsPath (line : Text) : Prop where
  isMarker_iff : isMarker line ↔
    line.trimEnd.head? = some '/' ∧ 2 ≤ (segments ⟨line.trimEnd⟩).length
  segments_eq : ∀ path ∈ ofMarker? line, path.directories ++ [path.fileName] = path.segments
  key_eq : ∀ path ∈ ofMarker? line,
    path.key = Text.join ['/'] (path.segments.drop (path.segments.length - 2))

instance (line : Text) : Decidable (ReadsAsPath line) :=
  decidable_of_iff (_ ∧ _ ∧ _) ⟨fun h => ⟨h.1, h.2.1, h.2.2⟩, fun h => ⟨h.1, h.2, h.3⟩⟩

/-- Whether the last two parts of a path are names, so that it neither ends in a slash nor has another
    one right before its last slash. -/
def endsInNames (path : SourcePath) : Bool :=
  !(path.parts.drop (path.parts.length - 2)).contains []

/-! ## The last two parts -/

variable {path : SourcePath} {line : Text} {front : List Text} {directory name : Text}

/-- A marker has a slash before each of its last two parts. -/
theorem two_le_length_parts {rest : Text} (h : '/' ∈ rest) :
    2 ≤ (parts ⟨'/' :: rest⟩).length := by
  obtain ⟨directory, name, rfl⟩ := List.append_of_mem h
  have hfirst : 0 < ((('/' :: directory) : Text).splitOn '/').length :=
    List.length_pos_iff.2 (List.splitOn_ne_nil _ _)
  have hsecond : 0 < (name.splitOn '/').length := List.length_pos_iff.2 (List.splitOn_ne_nil _ _)
  rw [parts, ← List.cons_append, List.splitOn_append_cons_self, List.length_append]
  omega

theorem exists_eq_append_pair {l : List Text} (h : 2 ≤ l.length) :
    ∃ front directory name, l = front ++ [directory, name] := by
  have hlength : (l.drop (l.length - 2)).length = 2 := by
    rw [List.length_drop]
    omega
  obtain ⟨directory, name, hpair⟩ := List.length_eq_two.1 hlength
  exact ⟨l.take (l.length - 2), directory, name, by rw [← hpair, List.take_append_drop]⟩

theorem drop_length_sub_two (front : List Text) (directory name : Text) :
    (front ++ [directory, name]).drop ((front ++ [directory, name]).length - 2) =
      [directory, name] := by
  have hlength : (front ++ [directory, name]).length = front.length + 2 := by simp
  rw [hlength, Nat.add_sub_cancel, List.drop_left]

theorem join_pair (directory name : Text) :
    Text.join ['/'] [directory, name] = directory ++ '/' :: name := by
  simp [Text.join]

theorem key_of_parts (h : path.parts = front ++ [directory, name]) :
    path.key = directory ++ '/' :: name := by
  rw [key, h, drop_length_sub_two, join_pair]

theorem fileName_of_parts (h : path.parts = front ++ [directory, name]) : path.fileName = name := by
  simp [fileName, h]

theorem endsInNames_of_parts (h : path.parts = front ++ [directory, name]) :
    path.endsInNames ↔ directory ≠ [] ∧ name ≠ [] := by
  rw [endsInNames, h, drop_length_sub_two, Bool.not_eq_true', ← Bool.not_eq_true, List.contains_iff_mem]
  simp [eq_comm (a := ([] : Text))]

/-! ## Markers -/

theorem full_of_ofMarker? (h : ofMarker? line = some path) :
    path.full = line.trimEnd ∧ line.trimEnd.head? = some '/' ∧ 2 ≤ path.parts.length := by
  rw [ofMarker?] at h
  split at h
  · next rest hfull =>
    split at h
    · next hslash =>
      cases h
      exact ⟨hfull.symm, by rw [hfull]; rfl, two_le_length_parts (List.contains_iff_mem.1 hslash)⟩
    · cases h
  · cases h

/-- An absolute path of two segments has a slash between them. -/
theorem isMarker_of_segments (habsolute : line.trimEnd.head? = some '/')
    (hsegments : 2 ≤ (segments ⟨line.trimEnd⟩).length) : isMarker line := by
  obtain ⟨rest, hfull⟩ : ∃ rest, line.trimEnd = '/' :: rest := List.head?_eq_some_iff.1 habsolute
  have hslash : '/' ∈ rest := by
    refine Decidable.byContradiction fun hnone => ?_
    have hparts : parts ⟨'/' :: rest⟩ = [[], rest] := by
      rw [parts, ← List.nil_append ('/' :: rest), List.splitOn_append_cons_self,
        List.splitOn_eq_singleton hnone]
      rfl
    have hone : (segments ⟨'/' :: rest⟩).length ≤ 1 := by
      rw [segments, hparts, List.filter_cons_of_neg (by simp)]
      exact List.length_filter_le _ _
    rw [hfull] at hsegments
    omega
  simp [isMarker, ofMarker?, hfull, hslash]

theorem segments_of_parts (h : path.parts = front ++ [directory, name]) (hdirectory : directory ≠ [])
    (hname : name ≠ []) : path.segments = front.filter (· ≠ []) ++ [directory, name] := by
  simp [segments, h, hdirectory, hname]

/-! ## What follows from the last two parts being names -/

theorem readsAsPath_of_not_isMarker (h : ofMarker? line = none) : ReadsAsPath line where
  isMarker_iff := by
    refine iff_of_false (by simp [isMarker, h]) fun hpath => ?_
    simpa [isMarker, h] using isMarker_of_segments hpath.1 hpath.2
  segments_eq := by simp [h]
  key_eq := by simp [h]

theorem readsAsPath_of_endsInNames (h : ofMarker? line = some path) (hnames : path.endsInNames) :
    ReadsAsPath line := by
  obtain ⟨hfull, habsolute, htwo⟩ := full_of_ofMarker? h
  obtain ⟨front, directory, name, hparts⟩ := exists_eq_append_pair htwo
  obtain ⟨hdirectory, hname⟩ := (endsInNames_of_parts hparts).1 hnames
  have hsegments := segments_of_parts hparts hdirectory hname
  have hlength : path.segments.length = (front.filter (· ≠ [])).length + 2 := by simp [hsegments]
  refine ⟨?_, ?_, ?_⟩
  · refine iff_of_true (by simp [isMarker, h]) ⟨habsolute, ?_⟩
    rw [← hfull]
    exact hlength ▸ Nat.le_add_left _ _
  · rintro path' hpath
    cases h.symm.trans hpath
    rw [directories, hsegments, fileName_of_parts hparts]
    simp
  · rintro path' hpath
    cases h.symm.trans hpath
    rw [hsegments, drop_length_sub_two, join_pair, key_of_parts hparts]

/-- With an empty part among the last two, the key begins or ends in a slash, and two segments with a
    slash between them do neither. -/
theorem ReadsAsPath.endsInNames (h : ReadsAsPath line) (hpath : ofMarker? line = some path) :
    path.endsInNames := by
  obtain ⟨hfull, -, htwo⟩ := full_of_ofMarker? hpath
  obtain ⟨front, directory, name, hparts⟩ := exists_eq_append_pair htwo
  have hmarker : 2 ≤ path.segments.length := by
    have hsegments := (h.isMarker_iff.1 (by simp [isMarker, hpath])).2
    rwa [← hfull] at hsegments
  obtain ⟨before, segment, last, hsegments⟩ := exists_eq_append_pair hmarker
  have hne : ∀ segment ∈ path.segments, segment ≠ [] :=
    fun segment hmem => by simpa using (List.mem_filter.1 hmem).2
  -- the last segment is the name of the file, and the key has the one before it for its directory
  have hlast : last = name := by
    have heq := congrArg List.getLast? (h.segments_eq path hpath)
    simpa [hsegments, fileName_of_parts hparts] using heq.symm
  have hdirectory : directory = segment := by
    have hkey := h.key_eq path hpath
    rw [key_of_parts hparts, hsegments, drop_length_sub_two, join_pair, hlast] at hkey
    exact List.append_cancel_right hkey
  refine (endsInNames_of_parts hparts).2 ⟨?_, ?_⟩
  · exact hdirectory ▸ hne segment (by simp [hsegments])
  · exact hlast ▸ hne last (by simp [hsegments])

/-- **When the ways of cutting a path agree.**  A line is read for the path that stands on it exactly if
    it is no marker at all, or the last two parts of its path are names. -/
theorem readsAsPath_iff (line : Text) :
    ReadsAsPath line ↔ ∀ path ∈ ofMarker? line, path.endsInNames := by
  constructor
  · exact fun h path hpath => h.endsInNames hpath
  · intro h
    cases hpath : ofMarker? line with
    | none => exact readsAsPath_of_not_isMarker hpath
    | some path => exact readsAsPath_of_endsInNames hpath (h path hpath)

example : ReadsAsPath "//project/src/Token.sol".toList := by decide

/-- With two slashes in front of its last part a path has another key than its segments give it, with
    one at its end no name, and with no other part before the last it is still a marker. -/
theorem not_readsAsPath_emptyParts :
    (¬ ReadsAsPath "/project/src//Token.sol".toList ∧
      (ofMarker? "/project/src//Token.sol".toList).map key = some "/Token.sol".toList ∧
      (ofMarker? "/project/src//Token.sol".toList).map segments =
        some (["project", "src", "Token.sol"].map String.toList)) ∧
    (¬ ReadsAsPath "/project/src/".toList ∧
      (ofMarker? "/project/src/".toList).map fileName = some [] ∧
      (ofMarker? "/project/src/".toList).map segments = some (["project", "src"].map String.toList)) ∧
    ¬ ReadsAsPath "//Token.sol".toList ∧ isMarker "//Token.sol".toList ∧
      (segments ⟨"//Token.sol".toList⟩).length = 1 := by
  decide

end FuzzCoverage.SourcePath

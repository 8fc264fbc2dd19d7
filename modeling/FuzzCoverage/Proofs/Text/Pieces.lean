import FuzzCoverage.Text.Blank

/-! # The pieces of a text between its blanks

A text that is cut at its blanks falls into pieces, and ends with the last of them and perhaps blanks
(`exists_endsWith`): these are the runs of characters that the text ends with, `lastRun`. -/

namespace FuzzCoverage.Text

variable {c : Char} {t u : Text}

/-- The pieces of a text between its blanks. -/
def pieces (t : Text) : List Text := (t.splitOnP isBlank).filter (· ≠ [])

theorem pieces_append_cons (t u : Text) (h : isBlank c) : pieces (t ++ c :: u) = pieces t ++ pieces u := by
  rw [pieces, List.splitOnP_append_cons t u h, List.filter_append]
  rfl

@[simp] theorem pieces_nil : pieces [] = [] := rfl

theorem pieces_of_allBlank (h : t.allBlank) : pieces t = [] := by
  induction t with
  | nil => rfl
  | cons c t ih =>
    rw [allBlank, List.all_cons, Bool.and_eq_true] at h
    exact (pieces_append_cons [] t h.1).trans (ih h.2)

theorem pieces_of_forall (h : ∀ c ∈ t, isBlank c = false) (hne : t ≠ []) : pieces t = [t] := by
  rw [pieces, List.splitOnP_eq_singleton h]
  simp [hne]

theorem pieces_cons_of_isBlank (h : isBlank c) (t : Text) : pieces (c :: t) = pieces t :=
  pieces_append_cons [] t h

theorem pieces_append_of_allBlank (t : Text) (h : u.allBlank) : pieces (t ++ u) = pieces t := by
  cases u with
  | nil => rw [List.append_nil]
  | cons c u =>
    rw [allBlank, List.all_cons, Bool.and_eq_true] at h
    rw [pieces_append_cons t u h.1, pieces_of_allBlank h.2, List.append_nil]

theorem exists_mem_pieces (hmem : c ∈ t) (hc : isBlank c = false) : ∃ piece ∈ pieces t, c ∈ piece := by
  induction t with
  | nil => cases hmem
  | cons d t ih =>
    by_cases hd : isBlank d
    · have hne : c ≠ d := by
        rintro rfl
        rw [hd] at hc
        cases hc
      rw [pieces_cons_of_isBlank hd]
      exact ih ((List.mem_cons.1 hmem).resolve_left hne)
    · obtain ⟨first, others, hsplit⟩ := List.exists_cons_of_ne_nil (List.splitOnP_ne_nil isBlank t)
      have hpieces : pieces (d :: t) = (d :: first) :: others.filter (· ≠ []) := by
        rw [pieces, List.splitOnP_cons_eq_if_modifyHead, if_neg hd, hsplit]
        rfl
      rw [hpieces]
      rcases List.mem_cons.1 hmem with rfl | hmem
      · exact ⟨_, List.mem_cons_self, List.mem_cons_self⟩
      · obtain ⟨piece, hpiece, hin⟩ := ih hmem
        rw [pieces, hsplit, List.mem_filter] at hpiece
        rcases List.mem_cons.1 hpiece.1 with rfl | hothers
        · exact ⟨_, List.mem_cons_self, List.mem_cons_of_mem d hin⟩
        · exact ⟨piece, List.mem_cons_of_mem _ (List.mem_filter.2 ⟨hothers, hpiece.2⟩), hin⟩

/-! ## Runs at the end of a text -/

/-- The longest run of characters of a class that a text ends with. -/
def lastRun (p : Char → Bool) (t : Text) : Text := (t.reverse.takeWhile p).reverse

def beforeLastRun (p : Char → Bool) (t : Text) : Text := (t.reverse.dropWhile p).reverse

theorem beforeLastRun_append (p : Char → Bool) (t : Text) : beforeLastRun p t ++ lastRun p t = t := by
  rw [beforeLastRun, lastRun, ← List.reverse_append, List.takeWhile_append_dropWhile, List.reverse_reverse]

theorem of_mem_lastRun {p : Char → Bool} (h : c ∈ lastRun p t) : p c :=
  List.all_eq_true.1 List.all_takeWhile c (List.mem_reverse.1 h)

theorem of_getLast?_beforeLastRun {p : Char → Bool} (h : (beforeLastRun p t).getLast? = some c) :
    p c = false := by
  have hhead := List.head?_dropWhile_not p t.reverse
  rw [beforeLastRun, List.getLast?_reverse] at h
  rwa [h] at hhead

theorem getLast?_beforeLastRun_of_mem (h : c ∈ t) : (beforeLastRun (· != c) t).getLast? = some c := by
  cases hend : (beforeLastRun (· != c) t).getLast? with
  | none =>
    have happend := beforeLastRun_append (· != c) t
    rw [List.getLast?_eq_none_iff.1 hend, List.nil_append] at happend
    rw [← happend] at h
    exact absurd (of_mem_lastRun h) (by simp)
  | some d =>
    have hd : d = c := by simpa using of_getLast?_beforeLastRun hend
    rw [hd]

/-- A run that cannot be longer. -/
theorem lastRun_append {p : Char → Bool} {before run : Text} (hrun : ∀ c ∈ run, p c)
    (hbefore : ∀ c ∈ before.getLast?, p c = false) :
    lastRun p (before ++ run) = run ∧ beforeLastRun p (before ++ run) = before := by
  have hall : ∀ c ∈ run.reverse, p c := fun c hc => hrun c (List.mem_reverse.1 hc)
  have hhead : ∀ c ∈ before.reverse.head?, p c = false := by
    rwa [List.head?_reverse]
  have hnone : before.reverse.takeWhile p = [] ∧ before.reverse.dropWhile p = before.reverse := by
    cases hreverse : before.reverse with
    | nil => exact ⟨rfl, rfl⟩
    | cons c rest =>
      have hc : ¬ p c := by simp [hhead c (by rw [hreverse]; rfl)]
      exact ⟨List.takeWhile_cons_of_neg hc, List.dropWhile_cons_of_neg hc⟩
  rw [lastRun, beforeLastRun, List.reverse_append, List.takeWhile_append_of_pos hall,
    List.dropWhile_append_of_pos hall, hnone.1, hnone.2, List.append_nil, List.reverse_reverse,
    List.reverse_reverse]
  exact ⟨rfl, rfl⟩

/-! ## The last piece -/

/-- The text ends with a piece and perhaps blanks. -/
structure EndsWith (t before name blanks : Text) : Prop where
  append : t = before ++ (name ++ blanks)
  blanks_blank : blanks.allBlank
  before_blank : ∀ c ∈ before.getLast?, isBlank c
  name_solid : ∀ c ∈ name, isBlank c = false
  pieces : pieces t = pieces before ++ [name]

theorem exists_endsWith (h : pieces t ≠ []) : ∃ before name blanks, EndsWith t before name blanks := by
  let front := beforeLastRun isBlank t
  let blanks := lastRun isBlank t
  let before := beforeLastRun (!isBlank ·) front
  let name := lastRun (!isBlank ·) front
  have hfront : front ++ blanks = t := beforeLastRun_append isBlank t
  have hbefore : before ++ name = front := beforeLastRun_append _ front
  have hblanks : allBlank blanks := List.all_eq_true.2 fun c hc => of_mem_lastRun hc
  have hlast : ∀ c ∈ before.getLast?, isBlank c := fun c hc => by
    simpa using of_getLast?_beforeLastRun (Option.mem_def.1 hc)
  have hname : ∀ c ∈ name, isBlank c = false := fun c hc => by simpa using of_mem_lastRun hc
  have hpieces : pieces t = pieces front := by rw [← hfront, pieces_append_of_allBlank front hblanks]
  have hne : name ≠ [] := by
    intro hnil
    rw [hnil, List.append_nil] at hbefore
    cases hend : front.getLast? with
    | none =>
      rw [hpieces, List.getLast?_eq_none_iff.1 hend] at h
      exact h rfl
    | some c =>
      have hblank := hlast c (hbefore ▸ hend)
      rw [of_getLast?_beforeLastRun hend] at hblank
      cases hblank
  refine ⟨before, name, blanks, ?_, hblanks, hlast, hname, ?_⟩
  · rw [← List.append_assoc, hbefore, hfront]
  · rw [hpieces, ← hbefore]
    cases hend : before.getLast? with
    | none => rw [List.getLast?_eq_none_iff.1 hend, List.nil_append, pieces_of_forall hname hne]; rfl
    | some c =>
      obtain ⟨init, hinit⟩ := List.getLast?_eq_some_iff.1 hend
      have hc := hlast c hend
      rw [hinit, List.append_assoc, List.singleton_append, pieces_append_cons init name hc,
        pieces_append_cons init [] hc, pieces_of_forall hname hne, pieces_nil, List.append_nil]

end FuzzCoverage.Text

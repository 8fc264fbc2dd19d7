/-! # Text

A `Text` is a list of characters: rows, source code, paths and names are all read from the left,
so a list is the form in which they are split and compared. -/

namespace FuzzCoverage

abbrev Text := List Char

namespace Text

/-- What follows `start` in a text that begins with it. -/
def after? (t start : Text) : Option Text :=
  if start.isPrefixOf t then some (t.drop start.length) else none

theorem after?_append (start t : Text) : after? (start ++ t) start = some t := by
  simp [after?]

theorem append_of_after? {start t rest : Text} (h : after? t start = some rest) :
    start ++ rest = t := by
  unfold after? at h
  split at h
  · rename_i hp
    obtain ⟨tail, rfl⟩ := List.isPrefixOf_iff_prefix.1 hp
    simpa using h.symm
  · cases h

@[simp] theorem after?_nil (t : Text) : after? t [] = some t := by simp [after?]

theorem after?_cons_cons (c d : Char) (t start : Text) :
    after? (c :: t) (d :: start) = if c = d then after? t start else none := by
  by_cases h : c = d
  · simp [after?, List.isPrefixOf, h]
  · simp [after?, List.isPrefixOf, h, Ne.symm h]

theorem isSome_after? (t start : Text) : (after? t start).isSome = start.isPrefixOf t := by
  cases h : start.isPrefixOf t <;> simp [after?, h]

theorem length_of_after? {t start rest : Text} (h : after? t start = some rest) :
    t.length = start.length + rest.length := by
  rw [← append_of_after? h, List.length_append]

/-- The parts before and after the first `divider`; `none` when there is none. -/
def cut? (divider : Char) (t : Text) : Option (Text × Text) :=
  match t.dropWhile (· != divider) with
  | [] => none
  | _ :: rest => some (t.takeWhile (· != divider), rest)

theorem append_of_cut? {divider : Char} {t before after : Text}
    (h : cut? divider t = some (before, after)) : before ++ divider :: after = t := by
  unfold cut? at h
  split at h
  · cases h
  · rename_i c rest heq
    obtain ⟨rfl, rfl⟩ : t.takeWhile (· != divider) = before ∧ rest = after := by
      simpa using h
    have hc : c = divider := by
      have := List.head?_dropWhile_not (· != divider) t
      simpa [heq] using this
    subst hc
    rw [← heq]
    exact List.takeWhile_append_dropWhile

theorem not_mem_of_cut? {divider : Char} {t before after : Text}
    (h : cut? divider t = some (before, after)) : divider ∉ before := by
  unfold cut? at h
  split at h
  · cases h
  · obtain ⟨rfl, -⟩ : t.takeWhile (· != divider) = before ∧ _ := by
      simpa using h
    intro hmem
    simpa using List.all_takeWhile |> List.all_eq_true.1 |> (· _ hmem)

theorem cut?_append {divider : Char} {before : Text} (after : Text) (h : divider ∉ before) :
    cut? divider (before ++ divider :: after) = some (before, after) := by
  have hp : ∀ c ∈ before, (c != divider) = true := by
    intro c hc
    simp only [bne_iff_ne, ne_eq]
    rintro rfl
    exact h hc
  simp [cut?, List.dropWhile_append_of_pos hp, List.takeWhile_append_of_pos hp]

theorem takeWhile_append_of_head? {p : Char → Bool} (t : Text) {u : Text}
    (h : ∀ c ∈ u.head?, p c = false) : (t ++ u).takeWhile p = t.takeWhile p := by
  have hnone : u.takeWhile p = [] := by
    cases u with
    | nil => rfl
    | cons c u => exact List.takeWhile_cons_of_neg (by simp [h c rfl])
  rw [List.takeWhile_append, hnone, List.append_nil]
  split
  · next hall => exact ((List.takeWhile_prefix _).eq_of_length hall).symm
  · rfl

theorem dropWhile_append_of_head? {p : Char → Bool} (t : Text) {u : Text}
    (h : ∀ c ∈ u.head?, p c = false) : (t ++ u).dropWhile p = t.dropWhile p ++ u := by
  have hall : u.dropWhile p = u := by
    cases u with
    | nil => rfl
    | cons c u => exact List.dropWhile_cons_of_neg (by simp [h c rfl])
  rw [List.dropWhile_append, hall]
  split
  · next hnone => rw [List.isEmpty_iff.1 hnone, List.nil_append]
  · rfl

def occursIn (part : Text) : Text → Bool
  | [] => part.isEmpty
  | c :: rest => part.isPrefixOf (c :: rest) || occursIn part rest

def join (divider : Text) (parts : List Text) : Text := (parts.intersperse divider).flatten

end Text

end FuzzCoverage

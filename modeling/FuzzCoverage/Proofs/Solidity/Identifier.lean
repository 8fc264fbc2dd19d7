import FuzzCoverage.Solidity.Heading

/-! # Identifiers

A text that begins with an identifier and goes on with something that is part of none.  A word that
stands at the beginning of such a text stands at the beginning of the identifier: the rest of the text
has no part in it (`after?_append_of_breaks`). -/

namespace FuzzCoverage.Solidity

open Text Heading

namespace Heading

theorem inIdentifier_of_begins {c : Char} (h : beginsIdentifier c) : inIdentifier c := by
  simp only [beginsIdentifier, Bool.or_eq_true, decide_eq_true_eq] at h
  rcases h with (halpha | rfl) | rfl
  · simp [inIdentifier, isWord_of_isAlpha halpha]
  · decide
  · decide

theorem not_isBlank_of_inIdentifier {c : Char} (h : inIdentifier c) : isBlank c = false := by
  refine Bool.eq_false_iff.2 fun hblank => ?_
  simp only [inIdentifier, isWord_of_isBlank hblank, Bool.false_or, decide_eq_true_eq] at h
  rw [h] at hblank
  exact absurd hblank (by decide)

theorem not_isWord_of_not_inIdentifier {c : Char} (h : inIdentifier c = false) : isWord c = false := by
  rw [inIdentifier, Bool.or_eq_false_iff] at h
  exact h.1

theorem ne_of_inIdentifier {c d : Char} (hc : inIdentifier c) (hd : inIdentifier d = false) : c ≠ d := by
  rintro rfl
  rw [hc] at hd
  cases hd

end Heading

/-- Whether a text is an identifier and nothing more. -/
def isIdentifier : Text → Bool
  | [] => false
  | c :: rest => beginsIdentifier c && rest.all inIdentifier

theorem all_of_isIdentifier {a : Text} (h : isIdentifier a) : a.all inIdentifier := by
  cases a with
  | nil => rfl
  | cons c rest =>
    rw [isIdentifier, Bool.and_eq_true] at h
    simp [inIdentifier_of_begins h.1, h.2]

/-! ## What follows an identifier -/

/-- Whether a text goes on with no identifier that stands before it. -/
def Breaks (t : Text) : Prop := ∀ c ∈ t.head?, inIdentifier c = false

instance : (t : Text) → Decidable (Breaks t)
  | [] => isTrue nofun
  | c :: _ => decidable_of_iff (inIdentifier c = false) (by simp [Breaks])

variable {t : Text}

theorem Breaks.not_isWord (h : Breaks t) : ∀ c ∈ t.head?, isWord c = false :=
  fun c hc => not_isWord_of_not_inIdentifier (h c hc)

theorem exists_cons_of_not_breaks (h : ¬ Breaks t) : ∃ c rest, t = c :: rest ∧ inIdentifier c := by
  cases t with
  | nil => exact absurd (fun c hc => nomatch hc) h
  | cons c rest => exact ⟨c, rest, rfl, by simpa [Breaks] using h⟩

theorem not_breaks_of_all (h : t.all inIdentifier) (hne : t ≠ []) : ¬ Breaks t := by
  obtain ⟨c, rest, rfl⟩ := List.exists_cons_of_ne_nil hne
  rw [List.all_cons, Bool.and_eq_true] at h
  simp [Breaks, h.1]

theorem all_dropWhile {p : Char → Bool} (h : t.all inIdentifier) : (t.dropWhile p).all inIdentifier :=
  List.all_eq_true.2 fun c hc => List.all_eq_true.1 h c ((List.dropWhile_suffix p).subset hc)

theorem not_breaks_of_isIdentifier (h : isIdentifier t) : ¬ Breaks t := by
  refine not_breaks_of_all (all_of_isIdentifier h) ?_
  rintro rfl
  cases h

theorem not_breaks_append (h : ¬ Breaks t) (u : Text) : ¬ Breaks (t ++ u) := by
  obtain ⟨c, rest, rfl, hc⟩ := exists_cons_of_not_breaks h
  simp [Breaks, hc]

theorem trimStart_of_not_breaks (h : ¬ Breaks t) : t.trimStart = t := by
  obtain ⟨c, rest, rfl, hc⟩ := exists_cons_of_not_breaks h
  exact trimStart_eq_self (by simpa using not_isBlank_of_inIdentifier hc)

theorem head?_of_not_breaks (h : ¬ Breaks t) {d : Char} (hd : inIdentifier d = false) :
    t.head? ≠ some d := by
  obtain ⟨c, rest, rfl, hc⟩ := exists_cons_of_not_breaks h
  simpa using ne_of_inIdentifier hc hd

/-! ## Words at the beginning -/

theorem all_of_after? {a word rest : Text} (ha : a.all inIdentifier) (h : a.after? word = some rest) :
    rest.all inIdentifier := by
  rw [← append_of_after? h, List.all_append, Bool.and_eq_true] at ha
  exact ha.2

/-- A word at the beginning of a text does not reach over the end of an identifier there. -/
theorem after?_append_of_breaks {word : Text} (hword : word.all inIdentifier) (a : Text) (ht : Breaks t) :
    (a ++ t).after? word = (a.after? word).map (· ++ t) := by
  induction word generalizing a with
  | nil => simp
  | cons d word ih =>
    rw [List.all_cons, Bool.and_eq_true] at hword
    cases a with
    | nil =>
      cases t with
      | nil => simp [after?, List.isPrefixOf]
      | cons c t =>
        rw [List.nil_append, after?_cons_cons, if_neg (ne_of_inIdentifier hword.1 (ht c rfl)).symm]
        rfl
    | cons c a =>
      rw [List.cons_append, after?_cons_cons, after?_cons_cons, ih hword.2]
      split <;> rfl

theorem isPrefixOf_append_of_breaks {word : Text} (hword : word.all inIdentifier) (a : Text)
    (ht : Breaks t) : word.isPrefixOf (a ++ t) = word.isPrefixOf a := by
  rw [← isSome_after?, ← isSome_after?, after?_append_of_breaks hword a ht, Option.isSome_map]

end FuzzCoverage.Solidity

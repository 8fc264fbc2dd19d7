import FuzzCoverage.Text.Basic
import FuzzCoverage.Text.CharRanges

/-! # Blank characters -/

namespace FuzzCoverage.Text

def blankRanges : CharRanges := [
  (0x9, 0xD), (0x20, 0x20), (0x85, 0x85), (0xA0, 0xA0), (0x1680, 0x1680), (0x2000, 0x200A),
  (0x2028, 0x2029), (0x202F, 0x202F), (0x205F, 0x205F), (0x3000, 0x3000)]

/-- White space: what separates words and is dropped at the ends of columns and rows. -/
def isBlank (c : Char) : Bool := blankRanges.has c

def trimStart (t : Text) : Text := t.dropWhile isBlank

def trimEnd (t : Text) : Text := (t.reverse.dropWhile isBlank).reverse

def trim (t : Text) : Text := (t.trimStart).trimEnd

def allBlank (t : Text) : Bool := t.all isBlank

theorem trimStart_eq_nil {t : Text} : t.trimStart = [] ↔ t.allBlank := by
  induction t with
  | nil => simp [trimStart, allBlank]
  | cons c rest ih =>
    by_cases hblank : isBlank c
    · rw [trimStart, List.dropWhile_cons_of_pos hblank, allBlank, List.all_cons, hblank, Bool.true_and]
      exact ih
    · simp [trimStart, allBlank, hblank]

theorem allBlank_trimStart (t : Text) : t.trimStart.allBlank = t.allBlank := by
  induction t with
  | nil => rfl
  | cons c rest ih =>
    by_cases hblank : isBlank c
    · simpa [trimStart, allBlank, hblank] using ih
    · simp [trimStart, allBlank, hblank]

theorem trim_eq_nil {t : Text} : t.trim = [] ↔ t.allBlank := by
  have hend : ∀ t : Text, t.trimEnd = [] ↔ t.allBlank := by
    intro t
    rw [trimEnd, List.reverse_eq_nil_iff, allBlank, ← List.all_reverse]
    exact trimStart_eq_nil
  rw [trim, hend, allBlank_trimStart]

theorem trimStart_suffix (t : Text) : t.trimStart <:+ t := List.dropWhile_suffix isBlank

theorem takeWhile_append_trimStart (t : Text) : t.takeWhile isBlank ++ t.trimStart = t :=
  List.takeWhile_append_dropWhile

theorem trimEnd_prefix (t : Text) : t.trimEnd <+: t := by
  rw [← List.reverse_suffix, trimEnd, List.reverse_reverse]
  exact List.dropWhile_suffix _

theorem isInfix_trim (t : Text) : t.trim <:+: t := by
  have hend : t.trim <+: t.trimStart := trimEnd_prefix t.trimStart
  exact hend.isInfix.trans (trimStart_suffix t).isInfix

theorem length_trimStart_le (t : Text) : t.trimStart.length ≤ t.length :=
  (trimStart_suffix t).length_le

theorem length_trim_le (t : Text) : t.trim.length ≤ t.length := by
  have hend : t.trim <+: t.trimStart := trimEnd_prefix t.trimStart
  exact Nat.le_trans hend.length_le (length_trimStart_le t)

theorem isBlank_head?_trimStart {t : Text} {c : Char} (h : t.trimStart.head? = some c) :
    isBlank c = false := by
  have hhead := List.head?_dropWhile_not isBlank t
  rw [← trimStart, h] at hhead
  simpa using hhead

theorem trimStart_eq_self {t : Text} (h : ∀ c, t.head? = some c → isBlank c = false) :
    t.trimStart = t := by
  cases t with
  | nil => rfl
  | cons c rest => exact List.dropWhile_cons_of_neg (by simp [h c rfl])

theorem trimStart_trim (t : Text) : t.trim.trimStart = t.trim := by
  apply trimStart_eq_self
  intro c hc
  -- the first character is that of the text without the blanks before it
  obtain ⟨rest, heq⟩ := trimEnd_prefix t.trimStart
  refine isBlank_head?_trimStart (t := t) ?_
  rw [← heq, ← trim, List.head?_append, hc]
  rfl

theorem trim_trim (t : Text) : t.trim.trim = t.trim := by
  have hend : t.trim.trimEnd = t.trim := by
    rw [trim, trimEnd, trimEnd, List.reverse_reverse]
    exact congrArg _ (trimStart_eq_self fun c hc => isBlank_head?_trimStart hc)
  rw [trim, trimStart_trim, hend]

theorem head?_trim_eq (t : Text) : t.trim.head? = t.trimStart.head? := by
  cases htrim : t.trim with
  | nil => rw [trimStart_eq_nil.2 (trim_eq_nil.1 htrim)]
  | cons first rest =>
    obtain ⟨tail, heq⟩ := trimEnd_prefix t.trimStart
    rw [← trim, htrim] at heq
    rw [← heq]
    rfl

theorem head?_trim {t : Text} {c : Char} (h : t.head? = some c) (hc : isBlank c = false) :
    t.trim.head? = some c := by
  rw [head?_trim_eq, trimStart_eq_self, h]
  intro first hfirst
  rw [h] at hfirst
  cases hfirst
  exact hc

theorem trim_of_forall {t : Text} (h : ∀ c ∈ t, isBlank c = false) : t.trim = t := by
  have hstart : ∀ t : Text, (∀ c ∈ t, isBlank c = false) → t.trimStart = t :=
    fun t ht => trimStart_eq_self fun c hc => ht c (List.mem_of_mem_head? hc)
  rw [trim, hstart t h, trimEnd]
  have hend := hstart t.reverse fun c hc => h c (List.mem_reverse.1 hc)
  rw [trimStart] at hend
  rw [hend, List.reverse_reverse]

theorem trimStart_append_of_allBlank {before : Text} (h : before.allBlank) (t : Text) :
    (before ++ t).trimStart = t.trimStart :=
  List.dropWhile_append_of_pos (List.all_eq_true.1 h)

theorem trimStart_append_cons {c : Char} (h : isBlank c = false) (t u : Text) :
    (t ++ c :: u).trimStart = t.trimStart ++ c :: u := by
  induction t with
  | nil => exact trimStart_eq_self (by simpa using h)
  | cons d t ih =>
    by_cases hblank : isBlank d
    · simpa [trimStart, hblank] using ih
    · simp [trimStart, hblank]

theorem trimEnd_append_of_allBlank {after : Text} (h : after.allBlank) (t : Text) :
    (t ++ after).trimEnd = t.trimEnd := by
  have hreverse : allBlank after.reverse := by simpa [allBlank] using h
  have hstart := trimStart_append_of_allBlank hreverse t.reverse
  rw [trimStart, trimStart, ← List.reverse_append] at hstart
  rw [trimEnd, hstart, trimEnd]

theorem trim_around {before after : Text} (hbefore : before.allBlank) (hafter : after.allBlank)
    (t : Text) : (before ++ t ++ after).trim = t.trim := by
  rw [trim, List.append_assoc, trimStart_append_of_allBlank hbefore, trimStart, List.dropWhile_append,
    ← trimStart]
  split
  · next hnone =>
    -- nothing but blanks is there
    have hblank : (after.dropWhile isBlank) = [] := trimStart_eq_nil.2 hafter
    rw [hblank, trim, List.isEmpty_iff.1 hnone]
  · rw [trimEnd_append_of_allBlank hafter, trim]

theorem count_trimStart {c : Char} (h : isBlank c = false) (t : Text) :
    t.trimStart.count c = t.count c := by
  induction t with
  | nil => rfl
  | cons first rest ih =>
    by_cases hblank : isBlank first
    · have hne : first ≠ c := by
        rintro rfl
        rw [h] at hblank
        cases hblank
      rw [List.count_cons_of_ne hne, ← ih, trimStart, trimStart, List.dropWhile_cons_of_pos hblank]
    · rw [trimStart, List.dropWhile_cons_of_neg hblank]

theorem count_trim {c : Char} (h : isBlank c = false) (t : Text) : t.trim.count c = t.count c := by
  have hend : ∀ t : Text, t.trimEnd.count c = t.count c := by
    intro t
    rw [trimEnd, List.count_reverse]
    exact (count_trimStart h t.reverse).trans List.count_reverse
  rw [trim, hend, count_trimStart h]

end FuzzCoverage.Text

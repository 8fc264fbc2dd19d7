import FuzzCoverage.Text.Blank
import FuzzCoverage.Text.WordTable

/-! # Words

A word is a longest run of word characters.  `isWord` and `isAlphanumeric` differ at marks and
connectors, which only words hold, and at superscripts and fractions, which only count as numbers. -/

namespace FuzzCoverage.Text

def isWord (c : Char) : Bool :=
  if c.toNat < 0x80 then c.isAlphanum || c == '_' else wordRanges.has c

def isAlphanumeric (c : Char) : Bool :=
  if c.toNat < 0x80 then c.isAlphanum
  else (wordRanges.has c && !joiningRanges.has c) || otherNumberRanges.has c

def leadingWord (t : Text) : Text := t.takeWhile isWord

def afterWord (t : Text) : Text := t.dropWhile isWord

def words (t : Text) : List Text := (t.splitOnP (!isWord ·)).filter (· ≠ [])

/-- Whether one of `names` occurs in the text as a whole word. -/
def mentions (names : List Text) (t : Text) : Bool := t.words.any names.contains

/-! ## The characters of words -/

theorem eq_false_of_isBlank {p : Char → Bool}
    (hranges : ∀ range ∈ blankRanges, ∀ k < range.2 + 1 - range.1, p (Char.ofNat (range.1 + k)) = false)
    {c : Char} (h : isBlank c) : p c = false := by
  obtain ⟨range, hmem, hhas⟩ := List.any_eq_true.1 h
  simp only [Bool.and_eq_true, decide_eq_true_eq] at hhas
  have hc := hranges range hmem (c.toNat - range.1) (by omega)
  rwa [Nat.add_sub_cancel' hhas.1, Char.ofNat_toNat] at hc

theorem isWord_of_isBlank {c : Char} (h : isBlank c) : isWord c = false := by
  have hranges : ∀ range ∈ blankRanges, ∀ k < range.2 + 1 - range.1,
      isWord (Char.ofNat (range.1 + k)) = false := by decide +kernel
  exact eq_false_of_isBlank hranges h

theorem isAlphanumeric_of_isBlank {c : Char} (h : isBlank c) : isAlphanumeric c = false := by
  have hranges : ∀ range ∈ blankRanges, ∀ k < range.2 + 1 - range.1,
      isAlphanumeric (Char.ofNat (range.1 + k)) = false := by decide +kernel
  exact eq_false_of_isBlank hranges h

theorem toNat_lt_of_isAlpha {c : Char} (h : c.isAlpha) : c.toNat < 0x80 := by
  have hletter : ∀ last : Char, last.toNat < 0x80 → c.val ≤ last.val → c.toNat < 0x80 :=
    fun last hlast hc => Nat.lt_of_le_of_lt (UInt32.le_iff_toNat_le.1 hc) hlast
  rcases Bool.or_eq_true_iff.1 h with hupper | hlower
  · exact hletter 'Z' (by decide) (of_decide_eq_true hupper).2
  · exact hletter 'z' (by decide) (of_decide_eq_true (Bool.and_eq_true_iff.1 hlower).2)

theorem isWord_of_isAlpha {c : Char} (h : c.isAlpha) : isWord c := by
  simp [isWord, toNat_lt_of_isAlpha h, Char.isAlphanum, h]

theorem isAlphanumeric_of_isAlpha {c : Char} (h : c.isAlpha) : isAlphanumeric c := by
  simp [isAlphanumeric, toNat_lt_of_isAlpha h, Char.isAlphanum, h]

/-! ## Words of texts that are put together -/

@[simp] theorem words_nil : words [] = [] := rfl

theorem words_append_cons (t u : Text) {c : Char} (h : isWord c = false) :
    words (t ++ c :: u) = words t ++ words u := by
  rw [words, List.splitOnP_append_cons t u (by simp [h]), List.filter_append]
  rfl

theorem words_cons (t : Text) {c : Char} (h : isWord c = false) : words (c :: t) = words t :=
  words_append_cons [] t h

theorem words_append {t u : Text}
    (h : (∀ c ∈ t.getLast?, isWord c = false) ∨ ∀ c ∈ u.head?, isWord c = false) :
    words (t ++ u) = words t ++ words u := by
  cases h with
  | inl hlast =>
    cases hend : t.getLast? with
    | none => simp [List.getLast?_eq_none_iff.1 hend]
    | some c =>
      obtain ⟨init, rfl⟩ := List.getLast?_eq_some_iff.1 hend
      have hc := hlast c hend
      rw [List.append_assoc, List.singleton_append, words_append_cons init u hc,
        words_append_cons init [] hc, words_nil, List.append_nil]
  | inr hhead =>
    cases u with
    | nil => simp
    | cons c u =>
      have hc := hhead c rfl
      rw [words_append_cons t u hc, words_cons u hc]

theorem leadingWord_append_afterWord (t : Text) : leadingWord t ++ afterWord t = t :=
  List.takeWhile_append_dropWhile

theorem words_of_leadingWord (t : Text) :
    words t =
      if leadingWord t = [] then words (afterWord t) else leadingWord t :: words (afterWord t) := by
  have hbreak : ∀ c ∈ (afterWord t).head?, isWord c = false := by
    intro c hc
    have hhead := List.head?_dropWhile_not isWord t
    rw [show (t.dropWhile isWord).head? = some c from hc] at hhead
    simpa using hhead
  have hword : words (leadingWord t) = if leadingWord t = [] then [] else [leadingWord t] := by
    have hall : ∀ c ∈ leadingWord t, (!isWord c) = false := by
      intro c hc
      simpa using List.all_eq_true.1 List.all_takeWhile c hc
    rw [words, List.splitOnP_eq_singleton hall]
    by_cases hnil : leadingWord t = [] <;> simp [hnil]
  have hsplit := leadingWord_append_afterWord t
  rw [← hsplit, words_append (Or.inr hbreak), hword, hsplit]
  split <;> rfl

theorem leadingWord_append (t : Text) {u : Text} (h : ∀ c ∈ u.head?, isWord c = false) :
    leadingWord (t ++ u) = leadingWord t :=
  takeWhile_append_of_head? t h

theorem mentions_append {names : List Text} {t u : Text}
    (h : (∀ c ∈ t.getLast?, isWord c = false) ∨ ∀ c ∈ u.head?, isWord c = false) :
    mentions names (t ++ u) = (mentions names t || mentions names u) := by
  rw [mentions, words_append h, List.any_append]
  rfl

end FuzzCoverage.Text

import FuzzCoverage.Proofs.Solidity.StringLiteral
import FuzzCoverage.Text.Word

/-! # Words inside and outside of string literals

`outsideStrings` and `insideStrings` are code with a blank for each character inside of a string
literal, and for each one outside, so that every character stays in its place.  A quote belongs to no
word, so a word of the code is a word of the one or of the other (`mentions_eq_or`). -/

namespace FuzzCoverage.Solidity

open Text

/-- Which characters are the contents of string literals, read from a place outside of strings or
    inside of one that ends at `quote`. -/
def stringMask : Option Char → Text → List Bool
  | _, [] => []
  | some quote, '\\' :: _ :: rest => true :: true :: stringMask (some quote) rest
  | some quote, c :: rest =>
    if c = quote then false :: stringMask none rest else true :: stringMask (some quote) rest
  | none, c :: rest => false :: stringMask (if isQuote c then some c else none) rest

/-- The characters with the given mark, and a blank for each other one. -/
def masked (mark : Bool) (t : Text) (mask : List Bool) : Text :=
  List.zipWith (fun c m => if m = mark then c else ' ') t mask

def outsideStrings (code : Text) : Text := masked false code (stringMask none code)

def insideStrings (code : Text) : Text := masked true code (stringMask none code)

@[simp] theorem masked_cons (mark : Bool) (c : Char) (t : Text) (m : Bool) (mask : List Bool) :
    masked mark (c :: t) (m :: mask) = (if m = mark then c else ' ') :: masked mark t mask := rfl

theorem length_stringMask (site : Option Char) (t : Text) : (stringMask site t).length = t.length := by
  fun_induction stringMask site t <;> simp_all

theorem length_outsideStrings (code : Text) : (outsideStrings code).length = code.length := by
  simp [outsideStrings, masked, length_stringMask]

/-- The characters of words stay where they are. -/
theorem getElem?_of_masked {mark : Bool} {t : Text} {mask : List Bool} {n : Nat} {c : Char}
    (h : (masked mark t mask)[n]? = some c) (hc : isWord c) : t[n]? = some c := by
  rw [masked, List.getElem?_zipWith_eq_some] at h
  obtain ⟨d, m, hd, -, heq⟩ := h
  split at heq
  · rw [hd, heq]
  · subst heq
    exact absurd hc (by decide)

/-- The words of a text are those of two others, and the word that it begins with is one of the
    first. -/
structure WordsSplit (t first second : Text) : Prop where
  leading : leadingWord t = leadingWord first
  other : leadingWord second = []
  rest : ∀ word, word ∈ words (afterWord t) ↔
    word ∈ words (afterWord first) ∨ word ∈ words (afterWord second)

namespace WordsSplit

variable {t first second : Text} {c : Char}

theorem mem_words (h : WordsSplit t first second) (word : Text) :
    word ∈ words t ↔ word ∈ words first ∨ word ∈ words second := by
  rw [words_of_leadingWord t, words_of_leadingWord first, words_of_leadingWord second, h.other,
    h.leading, if_pos rfl]
  split
  · exact h.rest word
  · rw [List.mem_cons, List.mem_cons, h.rest, or_assoc]

/-- Where the word before is over, any two texts will do. -/
theorem of_mem_words (hc : isWord c = false) {d e : Char} (hd : isWord d = false)
    (he : isWord e = false) (h : ∀ word, word ∈ words t ↔ word ∈ words first ∨ word ∈ words second) :
    WordsSplit (c :: t) (d :: first) (e :: second) where
  leading := by simp [leadingWord, hc, hd]
  other := by simp [leadingWord, he]
  rest word := by simpa [afterWord, hc, hd, he, words_cons] using h word

theorem cons (h : WordsSplit t first second) (c : Char) :
    WordsSplit (c :: t) (c :: first) (' ' :: second) := by
  have hblank : isWord ' ' = false := by decide
  cases hc : isWord c with
  | false => exact of_mem_words hc hc hblank h.mem_words
  | true =>
    -- the word goes on in the first text, and none does in the second
    have hsecond : words (afterWord second) = words second := by
      rw [words_of_leadingWord second, if_pos h.other]
    exact
      { leading := by simpa [leadingWord, hc] using h.leading
        other := by simp [leadingWord, hblank]
        rest := fun word => by
          have hword := h.rest word
          rw [hsecond] at hword
          simpa [afterWord, hc, hblank, words_cons] using hword }

end WordsSplit

theorem not_isWord_of_isQuote {c : Char} (h : isQuote c) : isWord c = false := by
  simp only [isQuote, Bool.or_eq_true, decide_eq_true_eq] at h
  cases h with
  | inl h => subst h; decide
  | inr h => subst h; decide

/-- The word that goes on where the reader stands is on the reader's side. -/
theorem wordsSplit_stringMask (site : Option Char) (t : Text) (hsite : ∀ quote ∈ site, isQuote quote) :
    WordsSplit t (masked site.isSome t (stringMask site t))
      (masked (!site.isSome) t (stringMask site t)) := by
  -- the side is the mark of the place the reader stands in, and a quote is marked as code
  fun_induction stringMask site t with
  | case1 site => exact ⟨by simp [masked], by simp [masked, leadingWord], by simp [masked, afterWord]⟩
  | case2 quote c rest ih => simpa using ((ih hsite).cons c).cons '\\'
  | case3 quote rest h ih =>
    -- the string ends, and the sides change
    have hquote := not_isWord_of_isQuote (hsite quote rfl)
    have hrest := (ih (by simp)).mem_words
    simp only [Option.isSome_none, Bool.not_false] at hrest
    simpa using WordsSplit.of_mem_words hquote (by decide) hquote
      fun word => (hrest word).trans or_comm
  | case4 quote c rest h hc ih => simpa using (ih hsite).cons c
  | case5 c rest ih =>
    have hrest := ih isQuote_of_opened
    by_cases hquote : isQuote c
    · -- a string begins
      have hc := not_isWord_of_isQuote hquote
      simp only [hquote, if_true, Option.isSome_some, Bool.not_true] at hrest ⊢
      simpa using WordsSplit.of_mem_words hc hc (by decide)
        fun word => (hrest.mem_words word).trans or_comm
    · simp only [hquote, Bool.false_eq_true, if_false, Option.isSome_none] at hrest ⊢
      simpa using hrest.cons c

theorem mentions_eq_or (names : List Text) (code : Text) :
    mentions names code =
      (mentions names (outsideStrings code) || mentions names (insideStrings code)) := by
  have hwords := (wordsSplit_stringMask none code (by simp)).mem_words
  simp only [Option.isSome_none, Bool.not_false] at hwords
  rw [Bool.eq_iff_iff]
  simp only [mentions, outsideStrings, insideStrings, Bool.or_eq_true, List.any_eq_true, hwords,
    or_and_right, exists_or]

end FuzzCoverage.Solidity

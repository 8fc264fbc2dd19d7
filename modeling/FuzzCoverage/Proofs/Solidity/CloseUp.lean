import FuzzCoverage.Proofs.Solidity.Token
import FuzzCoverage.Solidity.Statement

/-! # Reading a line that is closed up

A reader of the closed-up line finds what there is to be found in the line: its first and its last
character, its words, and what follows a word or a parenthesised list.  Each lemma says that the reader
may close up the line before it reads, or else what is left of the line afterwards.

`Anchored` and `EndsAnchored` texts have no blank at the one end and at the other: where a reader wants
something to stand, blanks make a difference. -/

namespace FuzzCoverage.Solidity

open Text Heading

variable {behind : Behind} {c : Char} {t u : Text}

/-- Whether a text begins with no blank. -/
def Anchored (t : Text) : Prop := ∀ c ∈ t.head?, isBlank c = false

theorem anchored_cons_iff : Anchored (c :: t) ↔ isBlank c = false := by simp [Anchored]

theorem anchored_trimStart (t : Text) : Anchored t.trimStart := fun _ => isBlank_head?_trimStart

theorem Anchored.trimStart_eq (h : Anchored t) : t.trimStart = t := trimStart_eq_self h

theorem trimStart_cons_of_isBlank (h : isBlank c) (t : Text) : Text.trimStart (c :: t) = t.trimStart :=
  List.dropWhile_cons_of_pos h

theorem trimStart_closeUp (behind : Behind) (t : Text) :
    (closeUp behind t).trimStart = closeUp .other t.trimStart := by
  induction t generalizing behind with
  | nil => rfl
  | cons c t ih =>
    by_cases hblank : isBlank c
    · rw [closeUp_blank hblank, ih, trimStart_cons_of_isBlank hblank]
    · rw [Bool.not_eq_true] at hblank
      have hanchored : ∀ rest, Anchored (c :: rest) := fun rest => anchored_cons_iff.2 hblank
      have hnext : behind.next c = Behind.next .other c := by simp [Behind.next, hblank]
      rw [(hanchored t).trimStart_eq, closeUp_cons .other (by decide) hblank, ← hnext, closeUp, Behind.put,
        if_neg (by simp [hblank])]
      -- the blank that two words keep between them is the only one to go
      split
      · rw [List.cons_append, trimStart_cons_of_isBlank (by decide)]
        exact (hanchored _).trimStart_eq
      · exact (hanchored _).trimStart_eq

theorem closeUp_trimStart (t : Text) : closeUp .other t.trimStart = closeUp .other t := by
  induction t with
  | nil => rfl
  | cons c t ih =>
    by_cases hblank : isBlank c
    · rw [closeUp_blank hblank, trimStart_cons_of_isBlank hblank, ih, Behind.blank_other]
    · rw [Bool.not_eq_true] at hblank
      rw [(anchored_cons_iff.2 hblank).trimStart_eq]

theorem head?_closeUp (h : Anchored t) : (closeUp .other t).head? = t.head? := by
  cases t with
  | nil => rfl
  | cons c t => rw [closeUp_cons .other (by decide) (anchored_cons_iff.1 h), List.head?_cons, List.head?_cons]

theorem anchored_closeUp (t : Text) : Anchored (closeUp .other t) := by
  rw [← closeUp_trimStart, ← trimStart_closeUp .other]
  exact anchored_trimStart _

theorem breaks_closeUp (t : Text) : Breaks (closeUp .wordAndBlanks t) := by
  induction t with
  | nil => exact nofun
  | cons c t ih =>
    by_cases hblank : isBlank c
    · rw [closeUp_blank hblank]
      exact ih
    · rw [Bool.not_eq_true] at hblank
      by_cases hc : inIdentifier c
      · rw [closeUp_letter_behindBlanks hc]
        exact breaks_cons_of_isBlank (by decide) _
      · rw [Bool.not_eq_true] at hc
        rw [closeUp_symbol hblank hc]
        simpa [Breaks] using hc

/-! ## Words -/

theorem span_of_breaks {p : Char → Bool} (hp : ∀ c, p c → inIdentifier c) (h : Breaks t) :
    t.takeWhile p = [] ∧ t.dropWhile p = t := by
  cases t with
  | nil => exact ⟨rfl, rfl⟩
  | cons c t =>
    have hc : ¬ p c := fun hpc => Bool.false_ne_true (by rw [← h c rfl, hp c hpc])
    exact ⟨List.takeWhile_cons_of_neg hc, List.dropWhile_cons_of_neg hc⟩

/-- A run of letters is the same run, and goes as far. -/
theorem span_closeUp {p : Char → Bool} (hp : ∀ c, p c → inIdentifier c) (t : Text) :
    (closeUp .word t).takeWhile p = t.takeWhile p ∧
      (closeUp .word t).dropWhile p = closeUp .word (t.dropWhile p) := by
  induction t with
  | nil => exact ⟨rfl, rfl⟩
  | cons c t ih =>
    by_cases hc : p c
    · rw [closeUp_letter .word (by decide) (hp c hc)]
      simp [hc, ih]
    · rw [List.takeWhile_cons_of_neg hc, List.dropWhile_cons_of_neg hc]
      by_cases hblank : isBlank c
      · rw [closeUp_blank hblank]
        exact span_of_breaks hp (breaks_closeUp t)
      · rw [Bool.not_eq_true] at hblank
        rw [closeUp_cons .word (by decide) hblank]
        exact ⟨List.takeWhile_cons_of_neg hc, List.dropWhile_cons_of_neg hc⟩

theorem after?_closeUp_word {word : Text} (hword : word.all inIdentifier) (t : Text) :
    (closeUp .word t).after? word = (t.after? word).map (closeUp .word) := by
  induction word generalizing t with
  | nil => simp
  | cons d word ih =>
    rw [List.all_cons, Bool.and_eq_true] at hword
    cases t with
    | nil => simp [after?, List.isPrefixOf]
    | cons c t =>
      by_cases hc : inIdentifier c
      · rw [closeUp_letter .word (by decide) hc, after?_cons_cons, after?_cons_cons, ih hword.2]
        split <;> rfl
      · rw [Bool.not_eq_true] at hc
        -- neither text begins with a letter
        have hne : c ≠ d := (ne_of_inIdentifier hword.1 hc).symm
        rw [after?_cons_cons, if_neg hne]
        have hbreaks : Breaks (closeUp .word (c :: t)) := by
          by_cases hblank : isBlank c
          · rw [closeUp_blank hblank]
            exact breaks_closeUp t
          · rw [Bool.not_eq_true] at hblank
            rw [closeUp_symbol hblank hc]
            simpa [Breaks] using hc
        have hall : (d :: word).all inIdentifier := by simp [hword]
        have hafter := after?_append_of_breaks hall [] hbreaks
        simpa [after?, List.isPrefixOf] using hafter

theorem after?_closeUp {word : Text} (hword : word.all inIdentifier) (hne : word ≠ []) (ht : Anchored t) :
    (closeUp .other t).after? word = (t.after? word).map (closeUp .word) := by
  obtain ⟨d, word, rfl⟩ := List.exists_cons_of_ne_nil hne
  rw [List.all_cons, Bool.and_eq_true] at hword
  cases t with
  | nil => simp [after?, List.isPrefixOf]
  | cons c t =>
    rw [closeUp_cons .other (by decide) (anchored_cons_iff.1 ht), after?_cons_cons, after?_cons_cons]
    split
    · next heq =>
      rw [← after?_closeUp_word hword.2, heq, Behind.next, if_neg, if_pos hword.1]
      simp [not_isBlank_of_inIdentifier hword.1]
    · rfl

theorem isPrefixOf_closeUp {word : Text} (hword : word.all inIdentifier) (hne : word ≠ [])
    (ht : Anchored t) : word.isPrefixOf (closeUp .other t) = word.isPrefixOf t := by
  rw [← isSome_after?, ← isSome_after?, after?_closeUp hword hne ht, Option.isSome_map]

theorem inIdentifier_of_isWord {c : Char} (h : isWord c) : inIdentifier c := by simp [inIdentifier, h]

theorem leadingWord_closeUp_word (t : Text) : (closeUp .word t).leadingWord = t.leadingWord :=
  (span_closeUp (fun _ => inIdentifier_of_isWord) t).1

theorem afterWord_closeUp_word (t : Text) : (closeUp .word t).afterWord = closeUp .word t.afterWord :=
  (span_closeUp (fun _ => inIdentifier_of_isWord) t).2

/-- Texts of the same words that begin with the same one go on with the same words. -/
theorem words_afterWord_eq (hwords : t.words = u.words) (hleading : t.leadingWord = u.leadingWord) :
    t.afterWord.words = u.afterWord.words := by
  rw [words_of_leadingWord t, words_of_leadingWord u, hleading] at hwords
  split at hwords
  · exact hwords
  · exact (List.cons.inj hwords).2

theorem leadingWord_closeUp (ht : Anchored t) :
    (closeUp .other t).leadingWord = t.leadingWord ∧
      (closeUp .other t).afterWord.trimStart = closeUp .other t.afterWord.trimStart := by
  cases t with
  | nil => exact ⟨rfl, rfl⟩
  | cons c t =>
    by_cases hc : isWord c
    · have hleading := leadingWord_closeUp_word t
      have hafter := afterWord_closeUp_word t
      rw [leadingWord] at hleading
      rw [afterWord] at hafter
      rw [closeUp_letter .other (by decide) (inIdentifier_of_isWord hc)]
      simp [leadingWord, afterWord, hc, hleading, hafter, trimStart_closeUp]
    · have htrim := trimStart_closeUp .other (c :: t)
      rw [closeUp_cons .other (by decide) (anchored_cons_iff.1 ht)] at htrim ⊢
      simpa [leadingWord, afterWord, hc] using htrim

theorem words_closeUp (behind : Behind) (t : Text) : (closeUp behind t).words = t.words := by
  induction t generalizing behind with
  | nil => rfl
  | cons c t ih =>
    by_cases hblank : isBlank c
    · rw [closeUp_blank hblank, ih, words_cons t (isWord_of_isBlank hblank)]
    · rw [Bool.not_eq_true] at hblank
      -- the blank that is kept ends no word
      have hput : (closeUp behind (c :: t)).words = words (c :: closeUp (behind.next c) t) := by
        rw [closeUp, Behind.put, if_neg (by simp [hblank])]
        split
        · exact words_cons (c :: closeUp (behind.next c) t) (c := ' ') (by decide)
        · rfl
      rw [hput]
      by_cases hc : isWord c
      · have hnext : behind.next c = .word := by simp [Behind.next, hblank, inIdentifier_of_isWord hc]
        have hword : ∀ rest, words (c :: rest) = (c :: leadingWord rest) :: words (afterWord rest) := by
          intro rest
          rw [words_of_leadingWord]
          simp [leadingWord, afterWord, hc]
        rw [hnext, hword, hword, leadingWord_closeUp_word, words_afterWord_eq (ih .word)]
        exact leadingWord_closeUp_word t
      · rw [Bool.not_eq_true] at hc
        rw [words_cons _ hc, words_cons _ hc, ih]

theorem mentions_closeUp (names : List Text) (behind : Behind) (t : Text) :
    (closeUp behind t).mentions names = t.mentions names := by
  rw [mentions, words_closeUp]
  rfl

/-! ## Lists in parentheses -/

theorem mem_of_mem_closeUp (h : c ∈ closeUp behind t) : c ∈ t ∨ c = ' ' := by
  induction t generalizing behind with
  | nil => cases h
  | cons d t ih =>
    rcases List.mem_append.1 h with hput | hrest
    · have hcase : c = d ∨ c = ' ' := by
        unfold Behind.put at hput
        split at hput
        · cases hput
        · split at hput
          · simpa [or_comm] using hput
          · simpa using Or.inl hput
      rcases hcase with rfl | hc
      · exact Or.inl List.mem_cons_self
      · exact Or.inr hc
    · exact (ih hrest).imp_left (List.mem_cons_of_mem d)

theorem closeUp_append (behind : Behind) (t u : Text) :
    closeUp behind (t ++ u) = closeUp behind t ++ closeUp (t.foldl Behind.next behind) u := by
  induction t generalizing behind with
  | nil => rfl
  | cons c t ih => simp [closeUp, ih]

theorem closeUp_append_symbol (behind : Behind) {d : Char} (hblank : isBlank d = false)
    (hd : inIdentifier d = false) (t u : Text) :
    closeUp behind (t ++ d :: u) = closeUp behind t ++ d :: closeUp .other u := by
  rw [closeUp_append, closeUp_symbol hblank hd]

theorem cut?_eq_none {d : Char} (h : d ∉ t) : t.cut? d = none := by
  have hall : ∀ c ∈ t, (c != d) = true := by
    rintro c hc
    rw [bne_iff_ne]
    rintro rfl
    exact h hc
  rw [cut?, List.dropWhile_eq_nil_iff.2 hall]

theorem not_mem_closeUp {d : Char} (hblank : isBlank d = false) (h : d ∉ t) (behind : Behind) :
    d ∉ closeUp behind t := by
  intro hmem
  rcases mem_of_mem_closeUp hmem with hmem | rfl
  · exact h hmem
  · exact absurd hblank (by decide)

theorem cut?_closeUp {d : Char} (hblank : isBlank d = false) (hd : inIdentifier d = false)
    (behind : Behind) (t : Text) :
    ((closeUp behind t).cut? d).map (·.2) = (t.cut? d).map fun cut => closeUp .other cut.2 := by
  cases hcut : t.cut? d with
  | none =>
    have hmem : d ∉ t := by
      intro hmem
      obtain ⟨before, after, rfl, hbefore⟩ := List.eq_append_cons_of_mem hmem
      rw [cut?_append after hbefore] at hcut
      cases hcut
    rw [cut?_eq_none (not_mem_closeUp hblank hmem behind)]
    rfl
  | some cut =>
    obtain ⟨before, after⟩ := cut
    rw [← append_of_cut? hcut, closeUp_append_symbol behind hblank hd,
      cut?_append _ (not_mem_closeUp hblank (not_mem_of_cut? hcut) behind)]
    rfl

theorem afterParentheses?_closeUp (behind : Behind) (t : Text) :
    afterParentheses? (closeUp behind t) = (afterParentheses? t).map (closeUp .other) := by
  rw [afterParentheses?, afterParentheses?, trimStart_closeUp]
  cases htrim : t.trimStart with
  | nil => rfl
  | cons c inner =>
    have hc : isBlank c = false := isBlank_head?_trimStart (by rw [htrim]; rfl)
    by_cases hopen : c = '('
    · subst hopen
      have hcut := cut?_closeUp (d := ')') (by decide) (by decide) .other inner
      rw [closeUp_symbol (by decide) (by decide)]
      simpa [Function.comp_def] using hcut
    · rw [closeUp_cons .other (by decide) hc]
      simp [hopen]

/-! ## The ends of lines -/

theorem closeUp_eq_nil_iff : closeUp behind t = [] ↔ t.allBlank := by
  induction t generalizing behind with
  | nil => exact iff_of_true rfl rfl
  | cons c t ih =>
    by_cases hblank : isBlank c
    · rw [closeUp_blank hblank, ih, allBlank, allBlank, List.all_cons, hblank, Bool.true_and]
    · have hput : behind.put c ≠ [] := by
        rw [Behind.put, if_neg hblank]
        split <;> exact List.cons_ne_nil _ _
      simp [closeUp, hput, allBlank, hblank]

/-- Whether a text ends in no blank. -/
def EndsAnchored (t : Text) : Prop := ∀ c ∈ t.getLast?, isBlank c = false

theorem EndsAnchored.of_suffix (h : EndsAnchored t) (hu : u <:+ t) : EndsAnchored u := by
  obtain ⟨before, rfl⟩ := hu
  intro c hc
  exact h c (by rw [List.getLast?_append, Option.mem_def.1 hc]; rfl)

theorem EndsAnchored.eq_nil (h : EndsAnchored t) (hblank : t.allBlank) : t = [] := by
  cases hlast : t.getLast? with
  | none => exact List.getLast?_eq_none_iff.1 hlast
  | some c =>
    have hc := List.all_eq_true.1 hblank c (List.mem_of_mem_getLast? hlast)
    rw [h c hlast] at hc
    cases hc

theorem getLast?_closeUp (h : EndsAnchored t) (behind : Behind) :
    (closeUp behind t).getLast? = t.getLast? := by
  cases hlast : t.getLast? with
  | none => rw [List.getLast?_eq_none_iff.1 hlast]; rfl
  | some c =>
    obtain ⟨init, rfl⟩ := List.getLast?_eq_some_iff.1 hlast
    rw [closeUp_append, closeUp, closeUp_nil, Behind.put, if_neg (by simp [h c hlast])]
    split <;> simp

/-- A single symbol is the same single symbol. -/
theorem closeUp_eq_singleton_iff {d : Char} (hd : inIdentifier d = false) (ht : Anchored t)
    (hend : EndsAnchored t) : closeUp .other t = [d] ↔ t = [d] := by
  constructor
  · intro h
    cases t with
    | nil => cases h
    | cons c t =>
      rw [closeUp_cons .other (by decide) (anchored_cons_iff.1 ht), List.cons.injEq] at h
      rw [(hend.of_suffix (List.suffix_cons c t)).eq_nil (closeUp_eq_nil_iff.1 h.2), h.1]
  · rintro rfl
    rw [closeUp_symbol (anchored_cons_iff.1 ht) hd, closeUp_nil]

end FuzzCoverage.Solidity

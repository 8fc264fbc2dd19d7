import FuzzCoverage.Proofs.Solidity.Attributes
import FuzzCoverage.Proofs.Solidity.CloseUp
import FuzzCoverage.Proofs.Solidity.FunctionSearch

/-! # Units, headers and attributes of a line that is closed up

The unit that begins on a line begins on the closed-up line as well (`Heading.of?_closeUp`), and the
closed-up line is the header of a definition, the end of a signature or a line of attributes if the line
is. -/

namespace FuzzCoverage.Solidity

open Text Heading

variable {behind : Behind} {c : Char} {t u : Text}

/-! ## The beginnings of units -/

namespace Heading

theorem opensList_closeUp (behind : Behind) (t : Text) : opensList (closeUp behind t) = opensList t := by
  rw [opensList, opensList, trimStart_closeUp, head?_closeUp (anchored_trimStart t)]

theorem identifier?_closeUp (ht : Anchored t) :
    identifier? (closeUp .other t) = (identifier? t).map fun (name, rest) => (name, closeUp .word rest) := by
  cases t with
  | nil => rfl
  | cons c t =>
    by_cases hc : beginsIdentifier c
    · obtain ⟨htake, hdrop⟩ := span_closeUp (fun _ h => h) t
      rw [closeUp_letter .other (by decide) (inIdentifier_of_begins hc)]
      simp [identifier?, hc, htake, hdrop]
    · rw [closeUp_cons .other (by decide) (anchored_cons_iff.1 ht)]
      simp [identifier?, hc]

theorem identifier?_of_breaks (h : Breaks t) : identifier? t = none := by
  cases t with
  | nil => rfl
  | cons c t =>
    have hc : ¬ beginsIdentifier c := fun hbegins =>
      Bool.false_ne_true (by rw [← h c rfl, inIdentifier_of_begins hbegins])
    rw [identifier?, if_neg hc]

/-- The identifier that blanks stand before.  Where it is none, the blanks may be gone. -/
theorem identifier?_trimStart_closeUp_word (t : Text) :
    (if (closeUp .word t).head?.any isBlank then identifier? (closeUp .word t).trimStart else none) =
      (if t.head?.any isBlank then identifier? t.trimStart else none).map
        fun (name, rest) => (name, closeUp .word rest) := by
  cases t with
  | nil => rfl
  | cons c t =>
    by_cases hblank : isBlank c
    · have hidentifier := identifier?_closeUp (anchored_trimStart t)
      rw [← trimStart_closeUp .wordAndBlanks] at hidentifier
      have hfirst : (c :: t).head?.any isBlank := by simpa using hblank
      rw [closeUp_blank hblank, trimStart_cons_of_isBlank hblank, if_pos hfirst, ← hidentifier]
      cases hhead : (closeUp .wordAndBlanks t).head?.any isBlank with
      | true => exact if_pos hhead
      | false =>
        have hanchored : Anchored (closeUp .wordAndBlanks t) := by
          intro c hc
          simpa [Option.mem_def.1 hc] using hhead
        rw [Behind.blank_word, if_neg (by simp [hhead]), hanchored.trimStart_eq,
          identifier?_of_breaks (breaks_closeUp t)]
    · rw [Bool.not_eq_true] at hblank
      rw [closeUp_cons .word (by decide) hblank]
      simp [hblank]

theorem named?_closeUp {keyword : Text} (hkeyword : keyword.all inIdentifier) (hne : keyword ≠ [])
    (ht : Anchored t) :
    named? keyword (closeUp .other t) =
      (named? keyword t).map fun (name, rest) => (name, closeUp .word rest) := by
  rw [named?, named?, after?_closeUp hkeyword hne ht]
  cases t.after? keyword with
  | none => rfl
  | some rest => exact identifier?_trimStart_closeUp_word rest

theorem functionHere?_closeUp (ht : Anchored t) : functionHere? (closeUp .other t) = functionHere? t := by
  rw [functionHere?, functionHere?, named?_closeUp (by decide) (by decide) ht]
  cases named? "function".toList t with
  | none => rfl
  | some found => simp [opensList_closeUp]

theorem isUnnamed_closeUp {keyword : Text} (hkeyword : keyword.all inIdentifier) (hne : keyword ≠ [])
    (ht : Anchored t) : isUnnamed keyword (closeUp .other t) = isUnnamed keyword t := by
  rw [isUnnamed, isUnnamed, after?_closeUp hkeyword hne ht, Option.any_map]
  congr 1
  exact funext fun rest => opensList_closeUp .word rest

theorem modifier?_closeUp (ht : Anchored t) : modifier? (closeUp .other t) = modifier? t := by
  rw [modifier?, modifier?, named?_closeUp (by decide) (by decide) ht]
  cases named? "modifier".toList t with
  | none => rfl
  | some found =>
    obtain ⟨name, rest⟩ := found
    simp only [Option.map_some, Option.bind_eq_bind, Option.bind_some, trimStart_closeUp]
    cases htrim : rest.trimStart with
    | nil => rfl
    | cons c after =>
      have hc : isBlank c = false := isBlank_head?_trimStart (by rw [htrim]; rfl)
      rw [closeUp_cons .other (by decide) hc]

theorem findFunction?_cons_of_not_isWord (h : isWord c = false) (afterWordChar : Bool) (t : Text) :
    findFunction? afterWordChar (c :: t) = findFunction? false t := by
  have hne : c ≠ 'f' := by
    rintro rfl
    exact absurd h (by decide)
  rw [findFunction?_cons (functionHere?_cons_of_ne hne t), h]

/-- A letter is looked at with what it begins, and the search goes on behind it. -/
theorem findFunction?_closeUp_letter (hc : inIdentifier c)
    (hrest : ∀ afterWordChar, findFunction? afterWordChar (closeUp .word t) = findFunction? afterWordChar t)
    (afterWordChar : Bool) :
    findFunction? afterWordChar (c :: closeUp .word t) = findFunction? afterWordChar (c :: t) := by
  have hhere := functionHere?_closeUp (anchored_cons_iff.2 (not_isBlank_of_inIdentifier hc)) (t := c :: t)
  rw [closeUp_letter .other (by decide) hc] at hhere
  rw [findFunction?, findFunction?, hhere, hrest]

/-- The search from behind a word, from behind a word and blanks, and from elsewhere. -/
theorem findFunction?_closeUp (t : Text) :
    (∀ afterWordChar, findFunction? afterWordChar (closeUp .word t) = findFunction? afterWordChar t) ∧
      (∀ afterWordChar, findFunction? afterWordChar (closeUp .wordAndBlanks t) = findFunction? false t) ∧
      findFunction? false (closeUp .other t) = findFunction? false t := by
  induction t with
  | nil => exact ⟨fun _ => rfl, fun _ => rfl, rfl⟩
  | cons c t ih =>
    obtain ⟨hword, hblanks, hother⟩ := ih
    by_cases hc : inIdentifier c
    · have hletter := findFunction?_closeUp_letter hc hword
      rw [closeUp_letter .word (by decide) hc, closeUp_letter .other (by decide) hc,
        closeUp_letter_behindBlanks hc]
      refine ⟨hletter, fun afterWordChar => ?_, hletter false⟩
      rw [findFunction?_cons_of_not_isWord (by decide), hletter]
    · rw [Bool.not_eq_true] at hc
      have hskip := findFunction?_cons_of_not_isWord (not_isWord_of_not_inIdentifier hc)
      by_cases hblank : isBlank c
      · simp only [closeUp_blank hblank, Behind.blank_word, Behind.blank_wordAndBlanks, Behind.blank_other,
          hskip, hblanks, hother, implies_true, and_self]
      · rw [Bool.not_eq_true] at hblank
        simp only [closeUp_symbol hblank hc, hskip, hother, implies_true, and_self]

theorem of?_closeUp (ht : Anchored t) : of? (closeUp .other t) = of? t := by
  have hunnamed : ∀ keyword ∈ ["constructor", "receive", "fallback"].map String.toList,
      isUnnamed keyword (closeUp .other t) = isUnnamed keyword t := by
    intro keyword hkeyword
    have hall : ∀ keyword ∈ ["constructor", "receive", "fallback"].map String.toList,
      keyword.all inIdentifier ∧ keyword ≠ [] := by decide
    exact isUnnamed_closeUp (hall keyword hkeyword).1 (hall keyword hkeyword).2 ht
  rw [of?, of?, (findFunction?_closeUp t).2.2, modifier?_closeUp ht, hunnamed _ (by decide),
    hunnamed _ (by decide), hunnamed _ (by decide)]

end Heading

/-! ## Attributes and headers -/

theorem isDefinitionHeader_closeUp (ht : Anchored t) :
    isDefinitionHeader (closeUp .other t) = isDefinitionHeader t := by
  obtain ⟨hleading, hafter⟩ := leadingWord_closeUp ht
  rw [isDefinitionHeader, isDefinitionHeader, hleading, hafter,
    (leadingWord_closeUp (anchored_trimStart _)).1]

theorem isSignatureTail_closeUp (ht : Anchored t) (hend : EndsAnchored t) :
    isSignatureTail (closeUp .other t) = isSignatureTail t := by
  rw [isSignatureTail, isSignatureTail, head?_closeUp ht, getLast?_closeUp hend]

theorem findSome?_after?_closeUp {words : List Text}
    (hwords : ∀ word ∈ words, word.all inIdentifier ∧ word ≠ []) (ht : Anchored t) :
    words.findSome? ((closeUp .other t).after? ·) = (words.findSome? (t.after? ·)).map (closeUp .word) := by
  induction words with
  | nil => rfl
  | cons word words ih =>
    obtain ⟨hword, hrest⟩ := List.forall_mem_cons.1 hwords
    rw [List.findSome?_cons, List.findSome?_cons, after?_closeUp hword.1 hword.2 ht, ih hrest]
    cases t.after? word <;> rfl

/-- What follows an attribute, without the blanks before it. -/
theorem afterAttribute?_closeUp (ht : Anchored t) :
    (afterAttribute? (closeUp .other t)).map trimStart =
      (afterAttribute? t).map fun rest => closeUp .other rest.trimStart := by
  rw [afterAttribute?, afterAttribute?, findSome?_after?_closeUp (by decide) ht,
    after?_closeUp (by decide) (by decide) ht, after?_closeUp (by decide) (by decide) ht]
  cases plainAttributes.findSome? (t.after? ·) with
  | some rest => exact congrArg some (trimStart_closeUp .word rest)
  | none =>
    cases t.after? "override".toList with
    | some rest =>
      show some (trimStart ((afterParentheses? (closeUp .word rest)).getD (closeUp .word rest))) =
        some (closeUp .other ((afterParentheses? rest).getD rest).trimStart)
      rw [afterParentheses?_closeUp]
      cases afterParentheses? rest with
      | none => exact congrArg some (trimStart_closeUp .word rest)
      | some after => exact congrArg some (trimStart_closeUp .other after)
    | none =>
      cases t.after? "returns".toList with
      | none => rfl
      | some rest =>
        show (afterParentheses? (closeUp .word rest)).map trimStart =
          (afterParentheses? rest).map fun after => closeUp .other after.trimStart
        rw [afterParentheses?_closeUp]
        cases afterParentheses? rest with
        | none => rfl
        | some after => exact congrArg some (trimStart_closeUp .other after)

theorem skipAttributes_closeUp (fuel : Nat) (ht : Anchored t) :
    skipAttributes fuel (closeUp .other t) = closeUp .other (skipAttributes fuel t) := by
  induction fuel generalizing t with
  | zero => rfl
  | succ fuel ih =>
    have hafter := afterAttribute?_closeUp ht
    rw [skipAttributes, skipAttributes]
    cases hnext : afterAttribute? t with
    | none =>
      simp only [hnext, Option.map_none, Option.map_eq_none_iff] at hafter
      rw [hafter]
    | some rest =>
      rw [hnext, Option.map_some, Option.map_eq_some_iff] at hafter
      obtain ⟨rest', hrest', htrim⟩ := hafter
      simp only [hrest', htrim]
      exact ih (anchored_trimStart rest)

theorem suffix_of_after? {word rest : Text} (h : t.after? word = some rest) : rest <:+ t :=
  ⟨word, append_of_after? h⟩

theorem suffix_of_afterParentheses? {rest : Text} (h : afterParentheses? t = some rest) : rest <:+ t := by
  unfold afterParentheses? at h
  split at h
  · next inner hopen =>
    obtain ⟨⟨before, after⟩, hcut, rfl⟩ := Option.map_eq_some_iff.1 h
    refine List.IsSuffix.trans ⟨'(' :: (before ++ [')']), ?_⟩ (trimStart_suffix t)
    rw [hopen, ← append_of_cut? hcut, List.cons_append, List.append_assoc, List.singleton_append]
  · cases h

theorem suffix_of_afterAttribute? {rest : Text} (h : afterAttribute? t = some rest) : rest <:+ t := by
  simp only [afterAttribute?, Option.orElse_eq_orElse, Option.orElse_eq_or, Option.or_eq_some_iff] at h
  rcases h with h | ⟨-, h | ⟨-, h⟩⟩
  · obtain ⟨word, -, hafter⟩ := List.exists_of_findSome?_eq_some h
    exact suffix_of_after? hafter
  · obtain ⟨after, hafter, hlist⟩ := Option.map_eq_some_iff.1 h
    cases hparentheses : afterParentheses? after with
    | none =>
      obtain rfl : after = rest := by simpa [hparentheses] using hlist
      exact suffix_of_after? hafter
    | some inner =>
      obtain rfl : inner = rest := by simpa [hparentheses] using hlist
      exact (suffix_of_afterParentheses? hparentheses).trans (suffix_of_after? hafter)
  · obtain ⟨after, hafter, hlist⟩ := Option.bind_eq_some_iff.1 h
    exact (suffix_of_afterParentheses? hlist).trans (suffix_of_after? hafter)

theorem skipAttributes_suffix (fuel : Nat) (t : Text) : skipAttributes fuel t <:+ t := by
  induction fuel generalizing t with
  | zero => exact List.suffix_refl t
  | succ fuel ih =>
    rw [skipAttributes]
    cases hnext : afterAttribute? t with
    | none => exact List.suffix_refl t
    | some rest =>
      exact ((ih rest.trimStart).trans (trimStart_suffix rest)).trans (suffix_of_afterAttribute? hnext)

theorem anchored_skipAttributes (fuel : Nat) (ht : Anchored t) : Anchored (skipAttributes fuel t) := by
  induction fuel generalizing t with
  | zero => exact ht
  | succ fuel ih =>
    rw [skipAttributes]
    cases afterAttribute? t with
    | none => exact ht
    | some rest => exact ih (anchored_trimStart rest)

theorem endsHeading_trimStart (t : Text) : endsHeading t.trimStart = endsHeading t := by
  have hfuel : skipAttributes t.trimStart.length t.trimStart = skipAttributes t.length t.trimStart :=
    skipAttributes_congr (Nat.le_refl _) (length_trimStart_le t)
  rw [endsHeading, (anchored_trimStart t).trimStart_eq, hfuel]
  rfl

theorem endsHeading_closeUp (ht : Anchored t) (hend : EndsAnchored t) :
    endsHeading (closeUp .other t) = endsHeading t := by
  -- enough fuel for both lines
  let fuel := max (closeUp .other t).length t.length
  have hskip : skipAttributes (closeUp .other t).length (closeUp .other t) =
      closeUp .other (skipAttributes t.length t) := by
    rw [skipAttributes_congr (Nat.le_refl _) (Nat.le_max_left _ t.length),
      skipAttributes_congr (Nat.le_refl t.length) (Nat.le_max_right (closeUp .other t).length _)]
    exact skipAttributes_closeUp _ ht
  have hrest := anchored_skipAttributes t.length ht
  have hrestEnd := hend.of_suffix (skipAttributes_suffix t.length t)
  have hnil : closeUp .other (skipAttributes t.length t) = [] ↔ skipAttributes t.length t = [] :=
    ⟨fun h => hrestEnd.eq_nil (closeUp_eq_nil_iff.1 h), fun h => by rw [h, closeUp_nil]⟩
  have hbrace := closeUp_eq_singleton_iff (show inIdentifier '\x7b' = false by decide) hrest hrestEnd
  have hsemicolon := closeUp_eq_singleton_iff (show inIdentifier ';' = false by decide) hrest hrestEnd
  rw [endsHeading, endsHeading, (anchored_closeUp t).trimStart_eq, ht.trimStart_eq, hskip, Bool.eq_iff_iff]
  simp only [Bool.or_eq_true, decide_eq_true_eq, List.isEmpty_iff, hnil, hbrace, hsemicolon]

theorem isAttributesOnly_closeUp (ht : Anchored t) (hend : EndsAnchored t) :
    isAttributesOnly (closeUp .other t) = isAttributesOnly t := by
  have hany : ∀ rest? : Option Text, rest?.any endsHeading = (rest?.map trimStart).any endsHeading := by
    intro rest?
    cases rest? <;> simp [endsHeading_trimStart]
  rw [isAttributesOnly_eq, isAttributesOnly_eq, hany, afterAttribute?_closeUp ht]
  cases hafter : afterAttribute? t with
  | none => rfl
  | some rest =>
    have hrestEnd := hend.of_suffix ((trimStart_suffix rest).trans (suffix_of_afterAttribute? hafter))
    simp only [Option.map_some, Option.any_some]
    rw [endsHeading_closeUp (anchored_trimStart rest) hrestEnd, endsHeading_trimStart]

end FuzzCoverage.Solidity

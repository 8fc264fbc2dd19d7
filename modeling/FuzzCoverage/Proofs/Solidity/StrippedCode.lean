import FuzzCoverage.Proofs.Solidity.FirstCode

/-! # Code without comments stays as it is

A comment begins where two characters stand side by side outside of string literals, a slash and a
slash or a star.  Taking comments out moves characters closer together, and still leaves no such place
(`OpensNoComment`):

* `opensNoComment_strip` — a slash is left only where the next character of the line is neither, and a
  block comment leaves a blank between what it stood between;
* `strip_of_opensNoComment` — a text without such a place is not changed.

So the code of a line is what a reader of code alone finds in it (`CodeLine.of_code`). -/

namespace FuzzCoverage.Solidity

open Text

/-- No comment begins in a text that has no string literals, or none with contents. -/
structure OpensNoComment (t : Text) : Prop where
  line : ¬ "//".toList <:+: t
  block : ¬ "/*".toList <:+: t

namespace OpensNoComment

variable {t u : Text} {c : Char}

theorem mono (h : OpensNoComment t) (hpart : u <:+: t) : OpensNoComment u :=
  ⟨fun hu => h.line (hu.trans hpart), fun hu => h.block (hu.trans hpart)⟩

theorem nil : OpensNoComment [] := ⟨by simp, by simp⟩

theorem pair_infix_cons_iff (first second : Char) :
    [first, second] <:+: c :: t ↔ (c = first ∧ t.head? = some second) ∨ [first, second] <:+: t := by
  rw [List.infix_cons_iff, List.cons_prefix_cons, eq_comm, List.head?_eq_some_iff, List.IsPrefix]
  simp only [List.singleton_append, eq_comm]

theorem cons_iff :
    OpensNoComment (c :: t) ↔
      (c = '/' → t.head? ≠ some '/' ∧ t.head? ≠ some '*') ∧ OpensNoComment t := by
  have hpair : ∀ second : Char, ['/', second] <:+: c :: t ↔ _ := pair_infix_cons_iff '/'
  constructor
  · intro h
    have hline := mt (hpair '/').2 h.line
    have hblock := mt (hpair '*').2 h.block
    rw [not_or, not_and] at hline hblock
    exact ⟨fun hc => ⟨hline.1 hc, hblock.1 hc⟩, hline.2, hblock.2⟩
  · rintro ⟨hhead, hline, hblock⟩
    refine ⟨mt (hpair '/').1 ?_, mt (hpair '*').1 ?_⟩
    · rintro (⟨hc, hnext⟩ | hlater)
      · exact (hhead hc).1 hnext
      · exact hline hlater
    · rintro (⟨hc, hnext⟩ | hlater)
      · exact (hhead hc).2 hnext
      · exact hblock hlater

theorem cons_of_ne (hc : c ≠ '/') (h : OpensNoComment t) : OpensNoComment (c :: t) :=
  cons_iff.2 ⟨fun heq => absurd heq hc, h⟩

end OpensNoComment

theorem emptyStrings_code_cons (c : Char) (rest : Text) :
    emptyStrings Lexis.code.quote? (c :: rest) =
      c :: emptyStrings (if isQuote c then Lexis.quoted c else Lexis.code).quote? rest := by
  rw [Lexis.quote?, emptyStrings]
  · split <;> rfl
  · simp

theorem head?_emptyStrings {site : Lexis} (hsite : site.quote? = none) (t : Text) :
    (emptyStrings site.quote? t).head? = t.head? := by
  rw [hsite]
  cases t <;> simp [emptyStrings]

theorem ne_slash_of_isQuote {c : Char} (h : isQuote c) : c ≠ '/' := by
  rintro rfl
  exact absurd h (by decide)

/-! ## What is left of a line opens no comment -/

theorem opensNoComment_strip (site : Lexis) (t : Text) (hsite : ∀ quote ∈ site.quote?, isQuote quote) :
    OpensNoComment (emptyStrings site.quote? (strip site t).text) := by
  fun_induction strip site t with
  | case1 rest ih =>
    have hrest := ih (by simp [Lexis.quote?])
    exact .cons_of_ne (c := ' ') (by decide) hrest
  | case2 c rest h ih => exact ih (by simp [Lexis.quote?])
  | case3 => exact .nil
  | case4 quote c rest ih =>
    rw [Stripped.put, Stripped.put, Lexis.quote?, emptyStrings]
    exact ih hsite
  | case5 quote c rest h ih =>
    have hend : c = '\\' → rest = [] := eq_nil_of_not_escape h
    by_cases hquote : c = quote
    · have hc := hsite quote rfl
      simp only [hquote, if_true] at ih ⊢
      rw [Stripped.put, Lexis.quote?, emptyStrings_quoted_cons, if_pos rfl]
      · exact .cons_of_ne (ne_slash_of_isQuote hc) (ih (by simp [Lexis.quote?]))
      · exact fun heq => absurd heq (ne_backslash_of_isQuote hc)
    · simp only [hquote, if_false] at ih ⊢
      rw [Stripped.put, Lexis.quote?, emptyStrings_quoted_cons, if_neg hquote]
      · exact ih hsite
      · intro heq
        rw [hend heq, strip]
  | case6 quote => exact .nil
  | case7 rest => exact .nil
  | case8 rest ih => exact ih (by simp [Lexis.quote?])
  | case9 c rest hline hblock ih =>
    rw [Stripped.put, emptyStrings_code_cons]
    by_cases hquote : isQuote c
    · simp only [hquote, if_true] at ih ⊢
      exact .cons_of_ne (ne_slash_of_isQuote hquote) (ih (by simpa [Lexis.quote?] using hquote))
    · simp only [hquote, Bool.false_eq_true, if_false] at ih ⊢
      refine OpensNoComment.cons_iff.2 ⟨?_, ih (by simp [Lexis.quote?])⟩
      -- neither kind of comment begins at a slash that is left, so that the next character stays there
      intro hslash
      have hnext : rest.head? ≠ some '/' := head?_ne_of_forall hline hslash
      rw [head?_emptyStrings rfl, head?_strip_code hnext]
      exact ⟨hnext, head?_ne_of_forall hblock hslash⟩
  | case10 => exact .nil

/-! ## What opens no comment is left as it is -/

theorem strip_of_opensNoComment {site : Lexis} {t : Text} (hsite : site ≠ .comment)
    (h : OpensNoComment (emptyStrings site.quote? t)) : strip site t = ⟨t, false⟩ := by
  fun_induction strip site t with
  | case1 rest ih => exact absurd rfl hsite
  | case2 c rest hcomment ih => exact absurd rfl hsite
  | case3 => exact absurd rfl hsite
  | case4 quote c rest ih =>
    rw [Lexis.quote?, emptyStrings] at h
    rw [ih (by simp) h]
    rfl
  | case5 quote c rest hescape ih =>
    have hend : c = '\\' → rest = [] := eq_nil_of_not_escape hescape
    rw [Lexis.quote?, emptyStrings_quoted_cons hend] at h
    by_cases hquote : c = quote
    · simp only [hquote, if_true] at ih h ⊢
      rw [ih (by simp) (OpensNoComment.cons_iff.1 h).2]
      rfl
    · simp only [hquote, if_false] at ih h ⊢
      rw [ih (by simp) h]
      rfl
  | case6 quote => rfl
  | case7 rest =>
    rw [emptyStrings_code_cons, OpensNoComment.cons_iff] at h
    exact absurd rfl (h.1 rfl).1
  | case8 rest ih =>
    rw [emptyStrings_code_cons, OpensNoComment.cons_iff] at h
    exact absurd rfl (h.1 rfl).2
  | case9 c rest hline hblock ih =>
    rw [emptyStrings_code_cons, OpensNoComment.cons_iff] at h
    by_cases hquote : isQuote c
    · simp only [hquote, if_true] at ih h ⊢
      rw [ih (by simp) h.2]
      rfl
    · simp only [hquote, Bool.false_eq_true, if_false] at ih h ⊢
      rw [ih (by simp) h.2]
      rfl
  | case10 => rfl

/-! ## The code of a line -/

namespace CodeLine

variable {inComment : Bool} {line code : Text}

theorem opensNoComment_code (h : (CodeLine.of inComment line).code = some code) :
    OpensNoComment (emptyStrings none code) := by
  have hstrip := opensNoComment_strip (.ofLine inComment) line (by simp)
  rw [Lexis.ofLine_quote?] at hstrip
  rw [← trim_strip_of_code h, emptyStrings_trim]
  exact hstrip.mono (isInfix_trim _)

/-- **Taking comments out twice is taking them out once.**  Wherever a line begins, and whatever comments,
    strings and open strings it holds, its code read as a line of its own is this code again and leaves
    no comment open, since outside of its strings nothing in it begins a comment. -/
theorem of_code (h : (CodeLine.of inComment line).code = some code) :
    CodeLine.of false code = ⟨some code, false⟩ ∧ OpensNoComment (emptyStrings none code) := by
  have hopens := opensNoComment_code h
  have hstrip : strip .code code = ⟨code, false⟩ := strip_of_opensNoComment (by simp) hopens
  refine ⟨?_, hopens⟩
  have hcode : code ≠ [] := ne_nil_of_code h
  simp [CodeLine.of, hstrip, trim_code h, hcode]

/-- A line that ends one comment and begins another, with both openers in a string between them, a
    quotient, and a string that stays open. -/
theorem of_code_quotientLine :
    (CodeLine.of true "per day */ a /* fee */ / b + len(\"/*//\\\"\") + 'c /* // ".toList).code =
        some "a   / b + len(\"/*//\\\"\") + 'c /* //".toList ∧
      CodeLine.of false "a   / b + len(\"/*//\\\"\") + 'c /* //".toList =
        ⟨some "a   / b + len(\"/*//\\\"\") + 'c /* //".toList, false⟩ ∧
      OpensNoComment (emptyStrings none "a   / b + len(\"/*//\\\"\") + 'c /* //".toList) := by
  have hcode : (CodeLine.of true
      "per day */ a /* fee */ / b + len(\"/*//\\\"\") + 'c /* // ".toList).code =
        some "a   / b + len(\"/*//\\\"\") + 'c /* //".toList := by
    decide
  exact ⟨hcode, of_code hcode⟩

end CodeLine

end FuzzCoverage.Solidity

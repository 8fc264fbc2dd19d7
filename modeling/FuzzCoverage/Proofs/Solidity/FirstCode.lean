import FuzzCoverage.Solidity.Statement
import FuzzCoverage.Proofs.Solidity.StringLiteral

/-! # What the code of a line begins with

A line's code begins with the first character of the line that is neither blank nor part of a comment
(`firstCode?`), whatever strings and comments the line has behind it.  So no beginning of a comment is
left for the test on comments to find, and the one thing it can find is the star of a product
(`CodeLine.looksLikeComment_iff`). -/

namespace FuzzCoverage.Solidity

open Text

/-- The first character of a line that is neither blank nor part of a comment, where the line begins
    inside of a block comment or outside of one. -/
def firstCode? : Bool → Text → Option Char
  | true, '*' :: '/' :: rest => firstCode? false rest
  | true, _ :: rest => firstCode? true rest
  | false, '/' :: '/' :: _ => none
  | false, '/' :: '*' :: rest => firstCode? true rest
  | false, c :: rest => if isBlank c then firstCode? false rest else some c
  | _, [] => none

theorem head?_trimStart_put (c : Char) (rest : Stripped) :
    (rest.put c).text.trimStart.head? = if isBlank c then rest.text.trimStart.head? else some c := by
  cases hblank : isBlank c <;> simp [Stripped.put, trimStart, hblank]

theorem head?_trimStart_strip (inComment : Bool) (line : Text) :
    (strip (.ofLine inComment) line).text.trimStart.head? = firstCode? inComment line := by
  fun_induction firstCode? inComment line with
  | case1 rest ih => exact (head?_trimStart_put ' ' _).trans ih
  | case2 c rest h ih =>
    rw [Lexis.ofLine, if_pos rfl, strip_comment_cons]
    · exact ih
    · rintro rfl hhead
      obtain ⟨tail, rfl⟩ := List.head?_eq_some_iff.1 hhead
      exact h tail rfl rfl
  | case3 => rfl
  | case4 rest ih => exact ih
  | case5 c rest hline hblock hblank ih =>
    rw [Lexis.ofLine, if_neg Bool.false_ne_true, strip, head?_trimStart_put, if_pos hblank,
      isQuote_of_isBlank hblank]
    · exact ih
    · exact hline
    · exact hblock
  | case6 c rest hline hblock hblank =>
    rw [Lexis.ofLine, if_neg Bool.false_ne_true, strip, head?_trimStart_put, if_neg hblank]
    · exact hline
    · exact hblock
  | case7 inComment => cases inComment <;> rfl

/-! ## The code of a line -/

namespace CodeLine

variable {inComment : Bool} {line code : Text}

theorem trim_strip_of_code (h : (CodeLine.of inComment line).code = some code) :
    (strip (.ofLine inComment) line).text.trim = code := by
  simp only [CodeLine.of, Option.ite_none_left_eq_some, Option.some.injEq] at h
  exact h.2

theorem ne_nil_of_code (h : (CodeLine.of inComment line).code = some code) : code ≠ [] := by
  rintro rfl
  simp [CodeLine.of] at h

theorem trim_code (h : (CodeLine.of inComment line).code = some code) : code.trim = code := by
  rw [← trim_strip_of_code h, trim_trim]

theorem head?_code (h : (CodeLine.of inComment line).code = some code) :
    code.head? = firstCode? inComment line := by
  rw [← trim_strip_of_code h, head?_trim_eq, head?_trimStart_strip]

/-- Comments have been taken out, and what stood around one does not grow together to another. -/
theorem not_beginsComment_code (h : (CodeLine.of inComment line).code = some code) :
    "//".toList.isPrefixOf code = false ∧ "/*".toList.isPrefixOf code = false := by
  have hcomment := beginsComment_trim (beginsComment_strip (Lexis.ofLine_quote? inComment) line)
  rwa [trim_strip_of_code h, beginsComment, ← trim_code h, trimStart_trim, trim_code h,
    Bool.or_eq_false_iff] at hcomment

/-- The code of a line has no blanks at its ends, and a star is all that it can have in common with
    the beginning of a comment. -/
theorem looksLikeComment_eq (h : (CodeLine.of inComment line).code = some code) :
    code.trim = code ∧ looksLikeComment code = "*".toList.isPrefixOf code := by
  obtain ⟨hline, hblock⟩ := not_beginsComment_code h
  refine ⟨trim_code h, ?_⟩
  rw [looksLikeComment, hline, hblock, Bool.false_or, Bool.or_false]

theorem isPrefixOf_star_iff (t : Text) : "*".toList.isPrefixOf t ↔ t.head? = some '*' := by
  cases t with
  | nil => exact iff_of_false Bool.false_ne_true nofun
  | cons c rest => simpa [List.isPrefixOf] using eq_comm

/-- **What the test on comments takes for one.**  Whether a line begins inside of a comment or not,
    nothing in its code looks like the beginning of a comment but a star, and that stands there exactly
    if it is the first character of the line that is neither blank nor part of a comment. -/
theorem looksLikeComment_iff (h : (CodeLine.of inComment line).code = some code) :
    "//".toList.isPrefixOf code = false ∧ "/*".toList.isPrefixOf code = false ∧
      ("*".toList.isPrefixOf code ↔ firstCode? inComment line = some '*') ∧
      (looksLikeComment code.trim ↔ firstCode? inComment line = some '*') := by
  obtain ⟨hline, hblock⟩ := not_beginsComment_code h
  have hstar : "*".toList.isPrefixOf code ↔ firstCode? inComment line = some '*' := by
    rw [isPrefixOf_star_iff, head?_code h]
  refine ⟨hline, hblock, hstar, ?_⟩
  obtain ⟨htrim, hlooks⟩ := looksLikeComment_eq h
  rwa [htrim, hlooks]

/-- A product behind the end of a block comment and in front of a line comment is code like any
    other. -/
theorem not_looksLikeComment_feeLine :
    (CodeLine.of true "rate */ fee = a * b; // rounded".toList).code = some "fee = a * b;".toList ∧
      looksLikeComment (trim "fee = a * b;".toList) = false := by
  have hcode : (CodeLine.of true "rate */ fee = a * b; // rounded".toList).code = some "fee = a * b;".toList := by
    decide
  refine ⟨hcode, Bool.eq_false_iff.2 fun hlooks => ?_⟩
  exact absurd ((looksLikeComment_iff hcode).2.2.2.1 hlooks) (by decide)

/-- Not so where the product goes on over the end of a line: with its star in front the second half
    may not be reported as untouched. -/
theorem looksLikeComment_rateLine :
    (CodeLine.of false "    * rate;".toList).code = some "* rate;".toList ∧
      looksLikeComment (trim "* rate;".toList) ∧ mayBeUntouched "* rate;".toList = false ∧
      mayBeUntouched "+ rate;".toList ∧ mayBeUntouched "x = amount * rate;".toList := by
  decide

end CodeLine

end FuzzCoverage.Solidity

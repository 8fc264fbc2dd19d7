import FuzzCoverage.Solidity.Brace
import Mathlib.Data.List.DropRight

/-! # Text without the contents of its string literals

`emptyStrings` takes the contents of the string literals out of code, and `emptySource` out of a line
that may hold comments too; the quotes stay.  What is left decides

* the comments: taking them out goes on as if the strings were empty (`CodeLine.of_emptySource`), so
  that two lines that agree outside of their strings leave a comment open, or hold code, together;
* the braces: those that count are those that are left (`Braces.of_eq_count`).

What is left when the comments are taken out does not begin like one (`beginsComment_strip`). -/

namespace FuzzCoverage.Solidity

open Text

/-- Code without the contents of its string literals, read from a place outside of strings or inside
    of one that ends at `quote`. -/
def emptyStrings : Option Char → Text → Text
  | _, [] => []
  | some quote, '\\' :: _ :: rest => emptyStrings (some quote) rest
  | some quote, c :: rest =>
    if c = quote then c :: emptyStrings none rest else emptyStrings (some quote) rest
  | none, c :: rest => c :: emptyStrings (if isQuote c then some c else none) rest

/-- A line without the contents of its string literals; its comments stay as they are. -/
def emptySource : Lexis → Text → Text
  | .comment, '*' :: '/' :: rest => '*' :: '/' :: emptySource .code rest
  | .comment, c :: rest => c :: emptySource .comment rest
  | .comment, [] => []
  | .quoted quote, '\\' :: _ :: rest => emptySource (.quoted quote) rest
  | .quoted quote, c :: rest =>
    if c = quote then c :: emptySource .code rest else emptySource (.quoted quote) rest
  | .quoted _, [] => []
  | .code, '/' :: '/' :: rest => '/' :: '/' :: rest
  | .code, '/' :: '*' :: rest => '/' :: '*' :: emptySource .comment rest
  | .code, c :: rest => c :: emptySource (if isQuote c then .quoted c else .code) rest
  | .code, [] => []

/-- The quote that ends the string literal a reader stands in. -/
def Lexis.quote? : Lexis → Option Char
  | .quoted quote => some quote
  | _ => none

/-- Where a line begins. -/
def Lexis.ofLine (inComment : Bool) : Lexis := if inComment then .comment else .code

@[simp] theorem Lexis.ofLine_quote? (inComment : Bool) : (ofLine inComment).quote? = none := by
  cases inComment <;> rfl

/-! ## Comments -/

theorem strip_comment_cons {c : Char} {rest : Text} (h : c = '*' → rest.head? ≠ some '/') :
    strip .comment (c :: rest) = strip .comment rest := by
  rw [strip]
  rintro tail hc rfl
  exact h hc rfl

theorem strip_quoted_cons {quote c : Char} {rest : Text} (h : c = '\\' → rest = []) :
    strip (.quoted quote) (c :: rest) =
      (strip (if c = quote then .code else .quoted quote) rest).put c := by
  rw [strip]
  rintro next tail hc rfl
  exact absurd (h hc) (List.cons_ne_nil _ _)

theorem strip_code_cons {c : Char} {rest : Text}
    (h : c = '/' → rest.head? ≠ some '/' ∧ rest.head? ≠ some '*') :
    strip .code (c :: rest) = (strip (if isQuote c then .quoted c else .code) rest).put c := by
  rw [strip]
  · rintro tail hc rfl
    exact (h hc).1 rfl
  · rintro tail hc rfl
    exact (h hc).2 rfl

/-- The form in which a reader's equations say that a text does not begin with two characters. -/
theorem head?_ne_of_forall {first : Prop} {next : Char} {rest : Text}
    (h : ∀ tail, first → rest = next :: tail → False) (hfirst : first) : rest.head? ≠ some next := by
  intro hnext
  obtain ⟨tail, rfl⟩ := List.head?_eq_some_iff.1 hnext
  exact h tail hfirst rfl

/-- A backslash that escapes nothing ends the line. -/
theorem eq_nil_of_not_escape {c : Char} {rest : Text}
    (h : ∀ next tail, c = '\\' → rest = next :: tail → False) (hc : c = '\\') : rest = [] := by
  cases rest with
  | nil => rfl
  | cons next tail => exact (h next tail hc rfl).elim

theorem emptyStrings_quoted_cons {quote c : Char} {rest : Text} (h : c = '\\' → rest = []) :
    emptyStrings (some quote) (c :: rest) =
      if c = quote then c :: emptyStrings none rest else emptyStrings (some quote) rest := by
  rw [emptyStrings]
  rintro next tail hc rfl
  exact absurd (h hc) (List.cons_ne_nil _ _)

theorem emptySource_head? {site : Lexis} (hsite : site.quote? = none) (t : Text) :
    (emptySource site t).head? = t.head? := by
  fun_cases emptySource site t <;> simp_all [Lexis.quote?]

/-- A quote opens and closes the same strings with and without their contents, so that comments are
    found in the same places. -/
theorem strip_emptySource (site : Lexis) (t : Text) (hsite : site.quote? ≠ some '\\') :
    strip site (emptySource site t) =
      ⟨emptyStrings site.quote? (strip site t).text, (strip site t).inComment⟩ := by
  fun_induction emptySource site t with
  | case1 rest ih =>
    rw [strip, strip, ih (by simp [Lexis.quote?])]
    rfl
  | case2 c rest h ih =>
    have hhead : c = '*' → rest.head? ≠ some '/' := by
      rintro hc hrest
      obtain ⟨tail, rfl⟩ := List.head?_eq_some_iff.1 hrest
      exact h tail hc rfl
    have hempty : c = '*' → (emptySource .comment rest).head? ≠ some '/' := by
      rwa [emptySource_head? rfl]
    rw [strip_comment_cons hhead, strip_comment_cons hempty, ih (by simp [Lexis.quote?])]
  | case3 => rfl
  | case4 quote c rest ih =>
    rw [ih hsite, strip]
    simp [Stripped.put, emptyStrings, Lexis.quote?]
  | case5 quote rest h ih =>
    have hquote : quote ≠ '\\' := fun heq => hsite (congrArg some heq)
    rw [strip_quoted_cons (fun heq => absurd heq hquote),
      strip_quoted_cons (fun heq => absurd heq hquote), if_pos rfl, ih (by simp [Lexis.quote?])]
    simp only [Stripped.put, Lexis.quote?]
    rw [emptyStrings_quoted_cons (fun heq => absurd heq hquote), if_pos rfl]
  | case6 quote c rest h hc ih =>
    have hend : c = '\\' → rest = [] := eq_nil_of_not_escape h
    rw [ih hsite, strip_quoted_cons hend, if_neg hc]
    simp only [Stripped.put, Lexis.quote?]
    rw [emptyStrings_quoted_cons, if_neg hc]
    intro heq
    rw [hend heq, strip]
  | case7 quote => rfl
  | case8 rest => rfl
  | case9 rest ih =>
    rw [strip, strip, ih (by simp [Lexis.quote?])]
    rfl
  | case10 c rest hline hblock ih =>
    -- what follows begins with the same character, with and without the strings after it
    have hhead : c = '/' → rest.head? ≠ some '/' ∧ rest.head? ≠ some '*' := by
      intro hc
      constructor <;> intro hrest <;> obtain ⟨tail, rfl⟩ := List.head?_eq_some_iff.1 hrest
      · exact hline tail hc rfl
      · exact hblock tail hc rfl
    by_cases hquote : isQuote c
    · have hslash : c ≠ '/' := by rintro rfl; exact absurd hquote (by decide)
      have hbackslash : c ≠ '\\' := by rintro rfl; exact absurd hquote (by decide)
      simp only [hquote, if_true] at ih ⊢
      rw [strip_code_cons (fun hc => absurd hc hslash), strip_code_cons hhead, if_pos hquote,
        ih (fun heq => hbackslash (Option.some.inj heq))]
      simp [Stripped.put, emptyStrings, Lexis.quote?, hquote]
    · simp only [hquote, Bool.false_eq_true, if_false] at ih ⊢
      have hempty : c = '/' → (emptySource .code rest).head? ≠ some '/' ∧
          (emptySource .code rest).head? ≠ some '*' := by
        rwa [emptySource_head? rfl]
      rw [strip_code_cons hempty, strip_code_cons hhead, if_neg hquote, ih (by simp [Lexis.quote?])]
      simp [Stripped.put, emptyStrings, Lexis.quote?, hquote]
  | case11 => rfl

/-! ## Blanks at the ends -/

theorem isQuote_of_isBlank {c : Char} (h : isBlank c) : isQuote c = false := by
  refine Bool.eq_false_iff.2 fun hquote => ?_
  simp only [isQuote, Bool.or_eq_true, decide_eq_true_eq] at hquote
  rcases hquote with rfl | rfl <;> exact absurd h (by decide)

theorem ne_backslash_of_isQuote {c : Char} (h : isQuote c) : c ≠ '\\' := by
  rintro rfl
  exact absurd h (by decide)

theorem isQuote_of_opened {c : Char} :
    ∀ quote ∈ (if isQuote c then some c else none), isQuote quote := by
  intro quote hquote
  split at hquote
  · cases hquote; assumption
  · cases hquote

theorem emptyStrings_trimStart (t : Text) :
    emptyStrings none t.trimStart = (emptyStrings none t).trimStart := by
  induction t with
  | nil => rfl
  | cons c rest ih =>
    by_cases hblank : isBlank c
    · simpa [trimStart, hblank, emptyStrings, isQuote_of_isBlank hblank] using ih
    · simp [trimStart, hblank, emptyStrings]

/-- A last character stays, or it belongs to a string literal that is still open, and then what stays
    before it ends in the quote that opens that string. -/
theorem emptyStrings_concat (site : Option Char) (t : Text) (c : Char)
    (hsite : ∀ quote ∈ site, isQuote quote) :
    emptyStrings site (t ++ [c]) = emptyStrings site t ++ [c] ∨
      emptyStrings site (t ++ [c]) = emptyStrings site t ∧
        ∃ quote, isQuote quote ∧ (site.toList ++ emptyStrings site t).getLast? = some quote := by
  fun_induction emptyStrings site t with
  | case1 site =>
    cases site with
    | none => exact Or.inl (by simp [emptyStrings])
    | some quote =>
      by_cases hc : c = quote
      · exact Or.inl (by simp [emptyStrings, hc])
      · exact Or.inr ⟨by simp [emptyStrings, hc], quote, hsite quote rfl, by simp⟩
  | case2 quote next rest ih => simpa [emptyStrings] using ih hsite
  | case3 quote rest h ih =>
    have hquote := ne_backslash_of_isQuote (hsite quote rfl)
    rw [List.cons_append, emptyStrings_quoted_cons (fun heq => absurd heq hquote), if_pos rfl]
    rcases ih (by simp) with hstays | ⟨hdropped, last, hlast, hend⟩
    · exact Or.inl (by rw [hstays, List.cons_append])
    · refine Or.inr ⟨by rw [hdropped], last, hlast, ?_⟩
      simp only [Option.toList_none, List.nil_append] at hend
      simp [List.getLast?_cons, hend]
  | case4 quote first rest h hfirst ih =>
    by_cases hescape : first = '\\'
    · obtain rfl : rest = [] := by
        cases rest with
        | nil => rfl
        | cons next tail => exact (h next tail hescape rfl).elim
      refine Or.inr ⟨?_, quote, hsite quote rfl, by simp [emptyStrings]⟩
      simp [hescape, emptyStrings]
    · rw [List.cons_append, emptyStrings_quoted_cons (fun heq => absurd heq hescape), if_neg hfirst]
      exact ih hsite
  | case5 first rest ih =>
    rw [List.cons_append, emptyStrings]
    rcases ih isQuote_of_opened with hstays | ⟨hdropped, last, hlast, hend⟩
    · exact Or.inl (by rw [hstays, List.cons_append])
    · refine Or.inr ⟨by rw [hdropped], last, hlast, ?_⟩
      by_cases hquote : isQuote first
      · simpa [hquote] using hend
      · simp only [hquote, Bool.false_eq_true, if_false, Option.toList_none, List.nil_append] at hend ⊢
        simp [List.getLast?_cons, hend]

theorem emptyStrings_trimEnd (t : Text) :
    emptyStrings none t.trimEnd = (emptyStrings none t).trimEnd := by
  show emptyStrings none (t.rdropWhile isBlank) = (emptyStrings none t).rdropWhile isBlank
  induction t using List.reverseRecOn with
  | nil => rfl
  | append_singleton rest c ih =>
    rcases emptyStrings_concat none rest c (by simp) with hstays | ⟨hdropped, quote, hquote, hend⟩
    · by_cases hblank : isBlank c
      · rw [List.rdropWhile_concat_pos _ _ _ hblank, hstays, List.rdropWhile_concat_pos _ _ _ hblank, ih]
      · rw [List.rdropWhile_concat_neg _ _ _ hblank, hstays, List.rdropWhile_concat_neg _ _ _ hblank]
    · -- the character was part of an open string, and a quote is no blank
      have hkept : (emptyStrings none rest).rdropWhile isBlank = emptyStrings none rest := by
        rw [List.rdropWhile_eq_self_iff]
        intro hne
        simp only [Option.toList_none, List.nil_append] at hend
        obtain rfl : (emptyStrings none rest).getLast hne = quote := by
          simpa [List.getLast?_eq_some_getLast hne] using hend
        intro hblank
        simp [isQuote_of_isBlank hblank] at hquote
      rw [hdropped, hkept]
      by_cases hblank : isBlank c
      · rw [List.rdropWhile_concat_pos _ _ _ hblank, ih, hkept]
      · rw [List.rdropWhile_concat_neg _ _ _ hblank, hdropped]

theorem emptyStrings_trim (t : Text) : emptyStrings none t.trim = (emptyStrings none t).trim := by
  rw [trim, emptyStrings_trimEnd, emptyStrings_trimStart, trim]

theorem emptyStrings_eq_nil {t : Text} : emptyStrings none t = [] ↔ t = [] := by
  cases t <;> simp [emptyStrings]

/-! ## What a line and its braces depend on -/

/-- The code of a line without the contents of its strings is the code of the line without them. -/
theorem CodeLine.of_emptySource (inComment : Bool) (line : Text) :
    CodeLine.of inComment (emptySource (.ofLine inComment) line) =
      ⟨(CodeLine.of inComment line).code.map (emptyStrings none),
        (CodeLine.of inComment line).inComment⟩ := by
  have hstrip := strip_emptySource (.ofLine inComment) line (by simp)
  rw [Lexis.ofLine_quote?, Lexis.ofLine] at hstrip
  simp only [CodeLine.of, Lexis.ofLine, hstrip, ← emptyStrings_trim, List.isEmpty_iff,
    emptyStrings_eq_nil, apply_ite (Option.map (emptyStrings none)), Option.map_none, Option.map_some]

theorem Braces.count_eq (site : Option Char) (code : Text) (hsite : ∀ quote ∈ site, isQuote quote) :
    Braces.count site code =
      ⟨(emptyStrings site code).count '\x7b', (emptyStrings site code).count '\x7d'⟩ := by
  fun_induction emptyStrings site code with
  | case1 site => cases site <;> rfl
  | case2 quote next rest ih => rw [Braces.count, ih hsite]
  | case3 quote rest h ih =>
    have hquote := hsite quote rfl
    have hopen : quote ≠ '\x7b' := by rintro rfl; exact absurd hquote (by decide)
    have hclose : quote ≠ '\x7d' := by rintro rfl; exact absurd hquote (by decide)
    rw [Braces.count, if_pos rfl, ih (by simp)]
    · simp [hopen, hclose]
    · exact h
  | case4 quote c rest h hc ih =>
    rw [Braces.count, if_neg hc, ih hsite]
    exact h
  | case5 c rest ih =>
    rw [Braces.count, ih isQuote_of_opened]
    simp only [Braces.ofChar, List.count_cons, beq_iff_eq]
    by_cases hopen : c = '\x7b'
    · simp [hopen, Braces.add, Nat.add_comm]
    · by_cases hclose : c = '\x7d'
      · simp [hclose, Braces.add, Nat.add_comm]
      · simp [hopen, hclose, Braces.add]

theorem Braces.of_eq_count (code : Text) :
    Braces.of code =
      ⟨(emptyStrings none code).count '\x7b', (emptyStrings none code).count '\x7d'⟩ :=
  Braces.count_eq none code (by simp)

/-! ## Code does not begin like a comment -/

/-- Whether a text begins like a comment, after the blanks before it. -/
def beginsComment (t : Text) : Bool :=
  "//".toList.isPrefixOf t.trimStart || "/*".toList.isPrefixOf t.trimStart

theorem beginsComment_cons_of_isBlank {c : Char} (h : isBlank c) (t : Text) :
    beginsComment (c :: t) = beginsComment t := by
  simp [beginsComment, trimStart, h]

theorem beginsComment_cons {c : Char} (hblank : isBlank c = false) {t : Text}
    (h : c = '/' → t.head? ≠ some '/' ∧ t.head? ≠ some '*') : beginsComment (c :: t) = false := by
  have hstart : trimStart (c :: t) = c :: t := trimStart_eq_self (by simpa using hblank)
  rw [beginsComment, hstart]
  by_cases hslash : c = '/'
  · obtain ⟨hline, hblock⟩ := h hslash
    cases t with
    | nil => simp [List.isPrefixOf]
    | cons next rest =>
      simp only [List.head?_cons, ne_eq, Option.some.injEq] at hline hblock
      simp [List.isPrefixOf, Ne.symm hline, Ne.symm hblock]
  · simp [List.isPrefixOf, Ne.symm hslash]

theorem head?_strip_code {t : Text} (h : t.head? ≠ some '/') : (strip .code t).text.head? = t.head? := by
  cases t with
  | nil => rfl
  | cons c rest =>
    rw [strip_code_cons fun hc => absurd (congrArg some hc) h]
    rfl

/-- What is left of a line without its comments does not begin like one. -/
theorem beginsComment_strip {site : Lexis} (hsite : site.quote? = none) (t : Text) :
    beginsComment (strip site t).text = false := by
  fun_induction strip site t with
  | case1 rest ih => exact (beginsComment_cons_of_isBlank (by decide) _).trans (ih rfl)
  | case2 c rest h ih => exact ih rfl
  | case3 => rfl
  | case4 quote c rest ih => cases hsite
  | case5 quote c rest h ih => cases hsite
  | case6 quote => cases hsite
  | case7 rest => rfl
  | case8 rest ih => exact ih rfl
  | case9 c rest hline hblock ih =>
    by_cases hblank : isBlank c
    · have hquote : isQuote c = false := isQuote_of_isBlank hblank
      rw [hquote] at ih ⊢
      exact (beginsComment_cons_of_isBlank hblank _).trans (ih rfl)
    · refine beginsComment_cons (by simpa using hblank) ?_
      rintro rfl
      -- neither kind of comment begins at this slash, so that the next character stays behind it
      have hslash : rest.head? ≠ some '/' := head?_ne_of_forall hline rfl
      rw [if_neg (by decide), head?_strip_code hslash]
      exact ⟨hslash, head?_ne_of_forall hblock rfl⟩
  | case10 => rfl

theorem beginsComment_trim {t : Text} (h : beginsComment t = false) : beginsComment t.trim = false := by
  have hprefix : t.trim <+: t.trimStart := trimEnd_prefix _
  have hshorter : ∀ start : Text, start.isPrefixOf t.trimStart = false → start.isPrefixOf t.trim = false := by
    intro start hstart
    rw [Bool.eq_false_iff, ne_eq, List.isPrefixOf_iff_prefix] at hstart ⊢
    exact fun hcode => hstart (hcode.trans hprefix)
  rw [beginsComment, Bool.or_eq_false_iff] at h ⊢
  rw [trimStart_trim]
  exact ⟨hshorter _ h.1, hshorter _ h.2⟩

end FuzzCoverage.Solidity

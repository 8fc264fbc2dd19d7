import FuzzCoverage.Proofs.Solidity.ModifierHeading
import FuzzCoverage.Proofs.Solidity.StringLiteral

/-! # Tokens

`tokens` are the words, string literals and symbols of a line of code, from the left: what stays of the
line when nobody looks at the blanks between them.

`closeUp` is a line with its characters moved together as far as they go: two words keep one blank between
them, and nothing else keeps any.  Blanks in string literals go as well, so that the closed-up line can
be read without regard to strings; what is left depends on the tokens alone
(`closeUp_eq_of_tokens_eq`). -/

namespace FuzzCoverage.Solidity

open Text Heading

/-! ## The tokens of a line -/

inductive TokenKind where
  | word
  /-- A string literal with its quotes, or without the second where the line ends before. -/
  | literal
  /-- One character that is neither blank nor part of one of the others.  An operator of two characters
      is two symbols, so that more lines count as made of the same tokens than with whole operators. -/
  | symbol
  deriving DecidableEq, Repr

structure Token where
  kind : TokenKind
  text : Text
  deriving DecidableEq, Repr

/-- One more character in front of the first token. -/
def putFirst (c : Char) : List Token → List Token
  | [] => []
  | token :: rest => { token with text := c :: token.text } :: rest

/-- The tokens of what follows a place outside of string literals, or one inside of a literal that ends
    at `quote`: then what is left of the literal is the first of them. -/
def tokens : Option Char → Text → List Token
  | none, [] => []
  | some _, [] => [⟨.literal, []⟩]
  | some quote, '\\' :: c :: rest => putFirst '\\' (putFirst c (tokens (some quote) rest))
  | some quote, c :: rest =>
    if c = quote then ⟨.literal, [c]⟩ :: tokens none rest else putFirst c (tokens (some quote) rest)
  | none, c :: rest =>
    if isBlank c then tokens none rest
    else if isQuote c then putFirst c (tokens (some c) rest)
    else if inIdentifier c then
      if Breaks rest then ⟨.word, [c]⟩ :: tokens none rest else putFirst c (tokens none rest)
    else ⟨.symbol, [c]⟩ :: tokens none rest

/-! ## Lines that are closed up -/

/-- What stands before a character. -/
inductive Behind where
  | word
  | wordAndBlanks
  /-- A symbol, or nothing, and perhaps blanks. -/
  | other
  deriving DecidableEq, Repr

namespace Behind

/-- What stands behind one more blank. -/
def blank : Behind → Behind
  | .other => .other
  | _ => .wordAndBlanks

/-- What stands behind one more character. -/
def next (behind : Behind) (c : Char) : Behind :=
  if isBlank c then behind.blank else if inIdentifier c then .word else .other

/-- A character of a line that is closed up, with the blank that it keeps before it. -/
def put (behind : Behind) (c : Char) : Text :=
  if isBlank c then [] else if inIdentifier c && behind = .wordAndBlanks then [' ', c] else [c]

end Behind

/-- The line without its blanks, but for one between each two words. -/
def closeUp : Behind → Text → Text
  | _, [] => []
  | behind, c :: rest => behind.put c ++ closeUp (behind.next c) rest

variable {behind : Behind} {c : Char} {t u : Text}

@[simp] theorem closeUp_nil (behind : Behind) : closeUp behind [] = [] := rfl

@[simp] theorem Behind.blank_word : Behind.blank .word = .wordAndBlanks := rfl

@[simp] theorem Behind.blank_wordAndBlanks : Behind.blank .wordAndBlanks = .wordAndBlanks := rfl

@[simp] theorem Behind.blank_other : Behind.blank .other = .other := rfl

@[simp] theorem Behind.blank_blank (behind : Behind) : behind.blank.blank = behind.blank := by
  cases behind <;> rfl

theorem Behind.blank_of_ne_word (h : behind ≠ .word) : behind.blank = behind := by
  cases behind with
  | word => exact absurd rfl h
  | wordAndBlanks => rfl
  | other => rfl

theorem Behind.blank_ne_word (behind : Behind) : behind.blank ≠ .word := by
  cases behind <;> decide

theorem closeUp_blank (h : isBlank c) : closeUp behind (c :: t) = closeUp behind.blank t := by
  simp [closeUp, Behind.put, Behind.next, h]

theorem closeUp_symbol (hblank : isBlank c = false) (hc : inIdentifier c = false) :
    closeUp behind (c :: t) = c :: closeUp .other t := by
  simp [closeUp, Behind.put, Behind.next, hblank, hc]

theorem closeUp_cons (behind : Behind) (hbehind : behind ≠ .wordAndBlanks) (h : isBlank c = false) :
    closeUp behind (c :: t) = c :: closeUp (behind.next c) t := by
  simp [closeUp, Behind.put, h, hbehind]

theorem closeUp_letter (behind : Behind) (hbehind : behind ≠ .wordAndBlanks) (h : inIdentifier c) :
    closeUp behind (c :: t) = c :: closeUp .word t := by
  simp [closeUp, Behind.put, Behind.next, not_isBlank_of_inIdentifier h, h, hbehind]

theorem closeUp_letter_behindBlanks (h : inIdentifier c) :
    closeUp .wordAndBlanks (c :: t) = ' ' :: c :: closeUp .word t := by
  simp [closeUp, Behind.put, Behind.next, not_isBlank_of_inIdentifier h, h]

/-- Blanks do not matter to what does not go on with a word. -/
theorem closeUp_of_breaks (h : Breaks t) (behind : Behind) : closeUp behind t = closeUp behind.blank t := by
  cases t with
  | nil => rfl
  | cons c t =>
    by_cases hblank : isBlank c
    · rw [closeUp_blank hblank, closeUp_blank hblank, Behind.blank_blank]
    · rw [Bool.not_eq_true] at hblank
      rw [closeUp_symbol hblank (h c rfl), closeUp_symbol hblank (h c rfl)]

/-! ## What is left depends on the tokens alone -/

/-- Tokens closed up. -/
def closeTokens : Behind → List Token → Text
  | _, [] => []
  | behind, token :: rest =>
    closeUp behind token.text ++ closeTokens (token.text.foldl Behind.next behind).blank rest

theorem closeTokens_putFirst {ts : List Token} (h : ts ≠ []) :
    closeTokens behind (putFirst c ts) = behind.put c ++ closeTokens (behind.next c) ts := by
  cases ts with
  | nil => exact absurd rfl h
  | cons token rest => simp [putFirst, closeTokens, closeUp]

theorem putFirst_ne_nil {ts : List Token} (h : ts ≠ []) : putFirst c ts ≠ [] := by
  cases ts with
  | nil => exact absurd rfl h
  | cons token rest => exact List.cons_ne_nil _ _

/-- A literal or a word that goes on is a token. -/
theorem tokens_ne_nil {site : Option Char} (h : site = none → ¬ Breaks t) : tokens site t ≠ [] := by
  fun_induction tokens site t with
  | case1 => exact absurd (fun c hc => nomatch hc) (h rfl)
  | case2 quote => exact List.cons_ne_nil _ _
  | case3 quote c rest ih => exact putFirst_ne_nil (putFirst_ne_nil (ih nofun))
  | case4 => exact List.cons_ne_nil _ _
  | case5 quote c rest hescape hquote ih => exact putFirst_ne_nil (ih nofun)
  | case6 c rest hblank ih => exact absurd (breaks_cons_of_isBlank hblank rest) (h rfl)
  | case7 c rest hblank hquote ih => exact putFirst_ne_nil (ih nofun)
  | case8 => exact List.cons_ne_nil _ _
  | case9 c rest hblank hquote hc hbreaks ih => exact putFirst_ne_nil (ih fun _ => hbreaks)
  | case10 => exact List.cons_ne_nil _ _

theorem Behind.next_of_isQuote (h : isQuote c) (behind : Behind) : behind.next c = .other := by
  simp only [isQuote, Bool.or_eq_true, decide_eq_true_eq] at h
  cases h with
  | inl h => subst h; rfl
  | inr h => subst h; rfl

/-- A word that goes on has to go on right away; elsewhere the blanks in front of the tokens do not
    matter. -/
theorem closeUp_eq_closeTokens {site : Option Char} (hsite : ∀ quote ∈ site, isQuote quote)
    (hword : site = none → behind = .word → ¬ Breaks t) :
    closeUp behind t = closeTokens behind (tokens site t) := by
  fun_induction tokens site t generalizing behind with
  | case1 => rfl
  | case2 quote => rfl
  | case3 quote c rest ih =>
    have hne : tokens (some quote) rest ≠ [] := tokens_ne_nil nofun
    rw [closeTokens_putFirst (putFirst_ne_nil hne), closeTokens_putFirst hne, ← ih hsite nofun]
    rfl
  | case4 quote rest hescape ih =>
    have hnext := Behind.next_of_isQuote (hsite quote rfl) behind
    have hrest := @ih .other (by simp) (by simp)
    simp [closeTokens, closeUp, hnext, hrest]
  | case5 quote c rest hescape hquote ih =>
    rw [closeTokens_putFirst (tokens_ne_nil (by simp)), ← ih hsite (by simp)]
    rfl
  | case6 c rest hblank ih =>
    have hbehind : behind ≠ .word := fun h => hword rfl h (breaks_cons_of_isBlank hblank rest)
    rw [closeUp_blank hblank, Behind.blank_of_ne_word hbehind]
    exact ih nofun fun _ h => absurd h hbehind
  | case7 c rest hblank hquote ih =>
    rw [closeTokens_putFirst (tokens_ne_nil (by simp)), ← ih (by simpa using hquote) (by simp)]
    rfl
  | case8 c rest hblank hquote hc hbreaks ih =>
    -- the word is over, and the next one has a blank between
    have hnext : behind.next c = .word := by simp [Behind.next, hblank, hc]
    have hrest := @ih .wordAndBlanks (by simp) (by simp)
    simp [closeTokens, closeUp, hnext, closeUp_of_breaks hbreaks .word, hrest]
  | case9 c rest hblank hquote hc hbreaks ih =>
    rw [closeTokens_putFirst (tokens_ne_nil fun _ => hbreaks), ← ih nofun fun _ _ => hbreaks]
    rfl
  | case10 c rest hblank hquote hc ih =>
    have hnext : behind.next c = .other := by simp [Behind.next, hblank, hc]
    have hrest := @ih .other (by simp) (by simp)
    simp [closeTokens, closeUp, hnext, hrest]

/-- Lines of the same tokens are the same when they are closed up. -/
theorem closeUp_eq_of_tokens_eq {code code' : Text} (h : tokens none code = tokens none code') :
    closeUp .other code = closeUp .other code' := by
  have hclose : ∀ code, closeUp .other code = closeTokens .other (tokens none code) :=
    fun code => closeUp_eq_closeTokens (by simp) (by simp)
  rw [hclose, hclose, h]

end FuzzCoverage.Solidity

import FuzzCoverage.Proofs.Solidity.StringLiteral

/-! # A lexer for whole files

`lex` reads a file from its first character to its last, in one of four modes: code, a string
literal, a line comment or a block comment.  A line feed ends a string literal and a line comment,
but no block comment, and block comments do not nest.

Taking the comments out of one line after another and counting the braces of what is left finds, on
every line, what the lexer finds there in the lines put together (`ofLines_eq_lexedLines`). -/

namespace FuzzCoverage.Solidity

open Text

/-! ## The lexer -/

inductive Mode where
  | code
  /-- A string literal that ends at `quote`; right after a backslash it does not. -/
  | string (quote : Char) (escaped : Bool)
  | lineComment
  | blockComment
  deriving DecidableEq, Repr

inductive Lexeme where
  | code (c : Char)
  | string (c : Char)
  | commentEnd
  | lineEnd (inComment : Bool)
  deriving DecidableEq, Repr

namespace Mode

def inComment (mode : Mode) : Bool := mode = .blockComment

/-- The mode that the next line begins in. -/
def nextLine : Mode → Mode
  | .blockComment => .blockComment
  | _ => .code

/-- The mode after a character of a string literal. -/
def afterString (quote : Char) (escaped : Bool) (c : Char) : Mode :=
  if escaped then .string quote false
  else if c = '\\' then .string quote true
  else if c = quote then .code
  else .string quote false

@[simp] theorem afterString_escaped (quote c : Char) :
    afterString quote true c = .string quote false := rfl

@[simp] theorem afterString_backslash (quote : Char) :
    afterString quote false '\\' = .string quote true := rfl

theorem afterString_of_ne {quote c : Char} (h : c ≠ '\\') :
    afterString quote false c = if c = quote then .code else .string quote false := by
  simp [afterString, h]

end Mode

def lex : Mode → Text → List Lexeme
  | mode, [] => [.lineEnd mode.inComment]
  | mode, '\n' :: rest => .lineEnd mode.inComment :: lex mode.nextLine rest
  | .code, '/' :: '/' :: rest => lex .lineComment rest
  | .code, '/' :: '*' :: rest => lex .blockComment rest
  | .code, c :: rest =>
    if isQuote c then .string c :: lex (.string c false) rest else .code c :: lex .code rest
  | .string quote escaped, c :: rest => .string c :: lex (.afterString quote escaped c) rest
  | .lineComment, _ :: rest => lex .lineComment rest
  | .blockComment, '*' :: '/' :: rest => .commentEnd :: lex .code rest
  | .blockComment, _ :: rest => lex .blockComment rest

structure LexedLine where
  lexemes : List Lexeme
  inComment : Bool
  deriving DecidableEq, Repr

/-- The lines of what the lexer has read; each has an end of its own. -/
def lexedLines : List Lexeme → List LexedLine
  | [] => []
  | .lineEnd inComment :: rest => ⟨[], inComment⟩ :: lexedLines rest
  | lexeme :: rest =>
    match lexedLines rest with
    | [] => []
    | line :: lines => { line with lexemes := lexeme :: line.lexemes } :: lines

/-- What a lexeme leaves of the source: a blank stands for a block comment. -/
def Lexeme.char? : Lexeme → Option Char
  | .code c => some c
  | .string c => some c
  | .commentEnd => some ' '
  | .lineEnd _ => none

namespace LexedLine

def text (line : LexedLine) : Text := line.lexemes.filterMap Lexeme.char?

def codeLine (line : LexedLine) : CodeLine :=
  { code := if line.text.allBlank then none else some line.text.trim, inComment := line.inComment }

def braces (line : LexedLine) : Braces :=
  ⟨line.lexemes.count (.code '\x7b'), line.lexemes.count (.code '\x7d')⟩

end LexedLine

namespace CodeLine

/-- Reads lines one after another, the first of which begins inside of a block comment or outside
    of one. -/
def ofLines : Bool → List Text → List CodeLine
  | _, [] => []
  | inComment, line :: lines =>
    CodeLine.of inComment line :: ofLines (CodeLine.of inComment line).inComment lines

def braces (line : CodeLine) : Braces := (line.code.map Braces.of).getD ⟨0, 0⟩

end CodeLine

/-! ## One line -/

theorem lex_code_cons {c : Char} {rest : Text} (hline : c ≠ '\n')
    (h : c = '/' → rest.head? ≠ some '/' ∧ rest.head? ≠ some '*') :
    lex .code (c :: rest) =
      if isQuote c then .string c :: lex (.string c false) rest else .code c :: lex .code rest := by
  rw [lex]
  · exact hline
  · rintro tail hc rfl
    exact (h hc).1 rfl
  · rintro tail hc rfl
    exact (h hc).2 rfl

theorem lex_string_cons {quote c : Char} {escaped : Bool} {rest : Text} (hline : c ≠ '\n') :
    lex (.string quote escaped) (c :: rest) =
      .string c :: lex (.afterString quote escaped c) rest := by
  rw [lex]
  exact hline

theorem lex_comment_cons {c : Char} {rest : Text} (hline : c ≠ '\n')
    (h : c = '*' → rest.head? ≠ some '/') :
    lex .blockComment (c :: rest) = lex .blockComment rest := by
  rw [lex]
  · exact hline
  · rintro tail hc rfl
    exact h hc rfl

theorem lex_lineComment_append {line : Text} (hline : '\n' ∉ line) (tail : Text) :
    lex .lineComment (line ++ tail) = lex .lineComment tail := by
  induction line with
  | nil => rfl
  | cons c line ih =>
    obtain ⟨hc, hrest⟩ := List.ne_and_not_mem_of_not_mem_cons hline
    rw [List.cons_append, lex, ih hrest]
    exact hc.symm

/-- The mode of a lexer that stands in a line where comments are being taken out. -/
def Lexis.mode : Lexis → Mode
  | .code => .code
  | .quoted quote => .string quote false
  | .comment => .blockComment

/-- The braces of a lexeme; in a string literal there are none. -/
def Lexeme.braces : Lexeme → Braces
  | .code c => Braces.ofChar c
  | _ => ⟨0, 0⟩

theorem LexedLine.braces_cons (lexeme : Lexeme) (lexemes : List Lexeme) (inComment : Bool) :
    (⟨lexeme :: lexemes, inComment⟩ : LexedLine).braces =
      lexeme.braces.add (⟨lexemes, inComment⟩ : LexedLine).braces := by
  cases lexeme with
  | code c =>
    simp only [LexedLine.braces, Lexeme.braces, Braces.ofChar, Braces.add, List.count_cons,
      Braces.mk.injEq, beq_iff_eq, Lexeme.code.injEq]
    by_cases hopen : c = '\x7b'
    · simp [hopen, Nat.add_comm]
    · by_cases hclose : c = '\x7d'
      · simp [hclose, Nat.add_comm]
      · simp [hopen, hclose]
  | string c => simp [LexedLine.braces, Lexeme.braces, Braces.add]
  | commentEnd => simp [LexedLine.braces, Lexeme.braces, Braces.add]
  | lineEnd inComment => simp [LexedLine.braces, Lexeme.braces, Braces.add]

/-- The lexemes up to a place in `mode` are what taking out the comments leaves, where the reader
    stands in a string literal that ends at `quote` or in none. -/
structure LexesTo (stripped : Stripped) (quote : Option Char) (lexemes : List Lexeme) (mode : Mode) :
    Prop where
  text : lexemes.filterMap Lexeme.char? = stripped.text
  braces : (⟨lexemes, mode.inComment⟩ : LexedLine).braces = Braces.count quote stripped.text
  inComment : mode.inComment = stripped.inComment
  inLine : ∀ inComment, .lineEnd inComment ∉ lexemes

variable {stripped : Stripped} {lexemes : List Lexeme} {mode : Mode}

theorem LexesTo.nil (quote : Option Char) (mode : Mode) :
    LexesTo ⟨[], mode.inComment⟩ quote [] mode := by
  refine ⟨rfl, ?_, rfl, by simp⟩
  cases quote <;> rfl

theorem LexesTo.cons {quote next : Option Char} {lexeme : Lexeme} {c : Char}
    (h : LexesTo stripped next lexemes mode) (hchar : lexeme.char? = some c)
    (hbraces : Braces.count quote (c :: stripped.text) =
      lexeme.braces.add (Braces.count next stripped.text)) :
    LexesTo (stripped.put c) quote (lexeme :: lexemes) mode := by
  refine ⟨?_, ?_, h.inComment, ?_⟩
  · rw [List.filterMap_cons_some hchar, h.text, Stripped.put]
  · rw [LexedLine.braces_cons, h.braces, Stripped.put, hbraces]
  · intro inComment hmem
    rcases List.mem_cons.1 hmem with rfl | hmem
    · cases hchar
    · exact h.inLine inComment hmem

theorem LexesTo.code {c : Char} (h : LexesTo stripped none lexemes mode) (hc : isQuote c = false) :
    LexesTo (stripped.put c) none (.code c :: lexemes) mode :=
  h.cons rfl (by simp [Braces.count, Lexeme.braces, hc])

theorem LexesTo.commentEnd (h : LexesTo stripped none lexemes mode) :
    LexesTo (stripped.put ' ') none (.commentEnd :: lexemes) mode :=
  h.cons rfl (by simp [Braces.count, Lexeme.braces, isQuote, Braces.ofChar])

theorem LexesTo.opened {quote : Char} (h : LexesTo stripped (some quote) lexemes mode)
    (hquote : isQuote quote) : LexesTo (stripped.put quote) none (.string quote :: lexemes) mode := by
  refine h.cons rfl ?_
  have hnone : Braces.ofChar quote = ⟨0, 0⟩ := by
    simp only [isQuote, Bool.or_eq_true, decide_eq_true_eq] at hquote
    rcases hquote with rfl | rfl <;> rfl
  simp [Braces.count, Lexeme.braces, hquote, hnone]

theorem LexesTo.closed {quote : Char} (h : LexesTo stripped none lexemes mode)
    (hquote : isQuote quote) :
    LexesTo (stripped.put quote) (some quote) (.string quote :: lexemes) mode := by
  refine h.cons rfl ?_
  rw [Braces.count, if_pos rfl]
  · simp [Lexeme.braces, Braces.add]
  · exact fun _ _ heq => absurd heq (ne_backslash_of_isQuote hquote)

theorem LexesTo.quoted {quote c : Char} (h : LexesTo stripped (some quote) lexemes mode)
    (hescape : c = '\\' → stripped.text = []) (hc : c ≠ quote) :
    LexesTo (stripped.put c) (some quote) (.string c :: lexemes) mode := by
  refine h.cons rfl ?_
  rw [Braces.count, if_neg hc]
  · simp [Lexeme.braces, Braces.add]
  · intro next rest heq htext
    rw [hescape heq] at htext
    cases htext

theorem LexesTo.escaped {quote c : Char} (h : LexesTo stripped (some quote) lexemes mode) :
    LexesTo ((stripped.put c).put '\\') (some quote) (.string '\\' :: .string c :: lexemes) mode := by
  refine ⟨?_, ?_, h.inComment, by simpa using h.inLine⟩
  · simp [Lexeme.char?, Stripped.put, h.text]
  · simp only [LexedLine.braces_cons, h.braces, Stripped.put, Braces.count, Lexeme.braces, Braces.add,
      Nat.zero_add]

theorem exists_lex_append {site : Lexis} {line tail : Text}
    (hsite : ∀ quote ∈ site.quote?, isQuote quote) (hline : '\n' ∉ line)
    (htail : ∀ c ∈ tail.head?, c = '\n') :
    ∃ lexemes mode, lex site.mode (line ++ tail) = lexemes ++ lex mode tail ∧
      LexesTo (strip site line) site.quote? lexemes mode := by
  -- what follows the line begins no comment and ends none
  have hhead : ∀ {c : Char} {rest : Text}, c ≠ '\n' → rest.head? ≠ some c →
      (rest ++ tail).head? ≠ some c := by
    intro c rest hc hrest
    cases rest with
    | nil => exact fun heq => hc (htail c heq)
    | cons next rest => simpa using hrest
  fun_induction strip site line with
  | case1 rest ih =>
    simp only [List.mem_cons, not_or] at hline
    obtain ⟨lexemes, mode, hlex, h⟩ := ih (by simp [Lexis.quote?]) hline.2.2
    refine ⟨.commentEnd :: lexemes, mode, ?_, h.commentEnd⟩
    rw [List.cons_append, List.cons_append, Lexis.mode, lex, ← Lexis.mode, hlex, List.cons_append]
  | case2 c rest h ih =>
    obtain ⟨hc, hrest⟩ := List.ne_and_not_mem_of_not_mem_cons hline
    obtain ⟨lexemes, mode, hlex, hto⟩ := ih (by simp [Lexis.quote?]) hrest
    refine ⟨lexemes, mode, ?_, hto⟩
    rw [List.cons_append, Lexis.mode, lex_comment_cons hc.symm, ← hlex, Lexis.mode]
    exact fun hstar => hhead (by decide) (head?_ne_of_forall h hstar)
  | case3 => exact ⟨[], .blockComment, rfl, .nil _ .blockComment⟩
  | case4 quote c rest ih =>
    simp only [List.mem_cons, not_or] at hline
    obtain ⟨lexemes, mode, hlex, h⟩ := ih hsite hline.2.2
    refine ⟨.string '\\' :: .string c :: lexemes, mode, ?_, h.escaped⟩
    rw [List.cons_append, List.cons_append, Lexis.mode, lex_string_cons (by decide),
      Mode.afterString_backslash, lex_string_cons (Ne.symm hline.2.1), Mode.afterString_escaped,
      ← Lexis.mode, hlex]
    rfl
  | case5 quote c rest h ih =>
    have hquote := hsite quote rfl
    obtain ⟨hc, hrest⟩ := List.ne_and_not_mem_of_not_mem_cons hline
    rw [List.cons_append, Lexis.mode, lex_string_cons hc.symm]
    by_cases hescape : c = '\\'
    · -- a backslash at the end of the line escapes nothing
      obtain rfl : rest = [] := by
        cases rest with
        | nil => rfl
        | cons next rest => exact (h next rest hescape rfl).elim
      have hne : c ≠ quote := fun heq => ne_backslash_of_isQuote hquote (heq ▸ hescape)
      refine ⟨[.string c], .string quote true, ?_, ?_⟩
      · rw [hescape, Mode.afterString_backslash]
        rfl
      · rw [if_neg hne, strip]
        exact (LexesTo.nil (some quote) (.string quote true)).quoted (fun _ => rfl) hne
    · rw [Mode.afterString_of_ne hescape]
      by_cases hend : c = quote
      · simp only [hend, if_true] at ih ⊢
        obtain ⟨lexemes, mode, hlex, hto⟩ := ih (by simp [Lexis.quote?]) hrest
        refine ⟨.string quote :: lexemes, mode, ?_, hto.closed hquote⟩
        rw [← Lexis.mode, hlex, List.cons_append]
      · simp only [hend, if_false] at ih ⊢
        obtain ⟨lexemes, mode, hlex, hto⟩ := ih hsite hrest
        refine ⟨.string c :: lexemes, mode, ?_, hto.quoted (absurd · hescape) hend⟩
        rw [← Lexis.mode, hlex, List.cons_append]
  | case6 quote => exact ⟨[], .string quote false, rfl, .nil _ (.string quote false)⟩
  | case7 rest =>
    simp only [List.mem_cons, not_or] at hline
    refine ⟨[], .lineComment, ?_, .nil _ .lineComment⟩
    rw [List.cons_append, List.cons_append, Lexis.mode, lex, lex_lineComment_append hline.2.2]
    rfl
  | case8 rest ih =>
    simp only [List.mem_cons, not_or] at hline
    obtain ⟨lexemes, mode, hlex, h⟩ := ih (by simp [Lexis.quote?]) hline.2.2
    refine ⟨lexemes, mode, ?_, h⟩
    rw [List.cons_append, List.cons_append, Lexis.mode, lex, ← hlex, Lexis.mode]
  | case9 c rest hslash hstar ih =>
    obtain ⟨hc, hrest⟩ := List.ne_and_not_mem_of_not_mem_cons hline
    have hcode : c = '/' → (rest ++ tail).head? ≠ some '/' ∧ (rest ++ tail).head? ≠ some '*' := by
      intro heq
      constructor
      · exact hhead (by decide) (head?_ne_of_forall hslash heq)
      · exact hhead (by decide) (head?_ne_of_forall hstar heq)
    rw [List.cons_append, Lexis.mode, lex_code_cons hc.symm hcode]
    by_cases hquote : isQuote c
    · simp only [hquote, if_true] at ih ⊢
      obtain ⟨lexemes, mode, hlex, hto⟩ := ih (by simpa [Lexis.quote?] using hquote) hrest
      refine ⟨.string c :: lexemes, mode, ?_, hto.opened hquote⟩
      rw [← Lexis.mode, hlex, List.cons_append]
    · simp only [hquote, Bool.false_eq_true, if_false] at ih ⊢
      obtain ⟨lexemes, mode, hlex, hto⟩ := ih (by simp [Lexis.quote?]) hrest
      refine ⟨.code c :: lexemes, mode, ?_, hto.code (Bool.eq_false_iff.2 hquote)⟩
      rw [← Lexis.mode, hlex, List.cons_append]
  | case10 => exact ⟨[], .code, rfl, .nil _ .code⟩

/-! ## The lines of a file -/

theorem lexedLines_append {lexemes : List Lexeme} (h : ∀ inComment, .lineEnd inComment ∉ lexemes)
    (inComment : Bool) (rest : List Lexeme) :
    lexedLines (lexemes ++ .lineEnd inComment :: rest) = ⟨lexemes, inComment⟩ :: lexedLines rest := by
  induction lexemes with
  | nil => rfl
  | cons lexeme lexemes ih =>
    have hrest : ∀ inComment, .lineEnd inComment ∉ lexemes :=
      fun inComment hmem => h inComment (List.mem_cons_of_mem _ hmem)
    rw [List.cons_append, lexedLines, ih hrest]
    rintro inComment rfl
    exact h inComment List.mem_cons_self

theorem Mode.nextLine_eq (mode : Mode) : mode.nextLine = (Lexis.ofLine mode.inComment).mode := by
  cases mode <;> rfl

theorem Braces.of_trim (t : Text) : Braces.of t.trim = Braces.of t := by
  rw [Braces.of_eq_count, Braces.of_eq_count, emptyStrings_trim, count_trim (by decide),
    count_trim (by decide)]

/-- What the lexer has read on a line gives the line's code and its braces. -/
theorem LexesTo.reads {inComment : Bool} {line : Text}
    (h : LexesTo (strip (.ofLine inComment) line) none lexemes mode) :
    (⟨lexemes, mode.inComment⟩ : LexedLine).codeLine = CodeLine.of inComment line ∧
      (⟨lexemes, mode.inComment⟩ : LexedLine).braces = (CodeLine.of inComment line).braces := by
  have htext : (⟨lexemes, mode.inComment⟩ : LexedLine).text = (strip (.ofLine inComment) line).text :=
    h.text
  have hcode : CodeLine.of inComment line =
      { code := if (strip (.ofLine inComment) line).text.allBlank then none
                else some (strip (.ofLine inComment) line).text.trim
        inComment := (strip (.ofLine inComment) line).inComment } := by
    simp only [CodeLine.of, List.isEmpty_iff, trim_eq_nil, Lexis.ofLine]
    rfl
  rw [hcode]
  constructor
  · rw [LexedLine.codeLine, htext, h.inComment]
  · rw [h.braces, CodeLine.braces]
    split
    · next hblank =>
      rw [← trim_eq_nil] at hblank
      rw [← Braces.of, ← Braces.of_trim, hblank]
      rfl
    · exact (Braces.of_trim _).symm

theorem exists_lex_line (inComment : Bool) {line : Text} (tail : Text) (hline : '\n' ∉ line)
    (htail : ∀ c ∈ tail.head?, c = '\n') :
    ∃ lexemes mode, lex (Lexis.ofLine inComment).mode (line ++ tail) = lexemes ++ lex mode tail ∧
      LexesTo (strip (.ofLine inComment) line) none lexemes mode := by
  rw [← Lexis.ofLine_quote? inComment]
  exact exists_lex_append (by simp) hline htail

theorem ofLines_eq_of_cons (inComment : Bool) (line : Text) (lines : List Text)
    (h : ∀ line' ∈ line :: lines, '\n' ∉ line') :
    (CodeLine.ofLines inComment (line :: lines)).map (fun line => (line, line.braces)) =
      (lexedLines (lex (Lexis.ofLine inComment).mode (join ['\n'] (line :: lines)))).map
        fun line => (line.codeLine, line.braces) := by
  -- each line leaves the lexer in the mode that the next one begins in
  induction lines generalizing inComment line with
  | nil =>
    obtain ⟨lexemes, mode, hlex, hto⟩ := exists_lex_line inComment [] (h line (by simp)) (by simp)
    have hjoin : join ['\n'] [line] = line ++ [] := by simp [join]
    rw [hjoin, hlex, lex, lexedLines_append hto.inLine]
    simp [CodeLine.ofLines, hto.reads, lexedLines]
  | cons next lines ih =>
    obtain ⟨hline, hlines⟩ := List.forall_mem_cons.1 h
    obtain ⟨lexemes, mode, hlex, hto⟩ := exists_lex_line inComment
      ('\n' :: join ['\n'] (next :: lines)) hline (by simp)
    have hjoin : join ['\n'] (line :: next :: lines) = line ++ '\n' :: join ['\n'] (next :: lines) := by
      simp [join]
    have hmode : (CodeLine.of inComment line).inComment = mode.inComment := hto.inComment.symm
    rw [hjoin, hlex, lex, lexedLines_append hto.inLine, Mode.nextLine_eq, CodeLine.ofLines, hmode,
      List.map_cons, List.map_cons, hto.reads.1, hto.reads.2, ih mode.inComment next hlines]

theorem length_ofLines (inComment : Bool) (lines : List Text) :
    (CodeLine.ofLines inComment lines).length = lines.length := by
  induction lines generalizing inComment with
  | nil => rfl
  | cons line lines ih => rw [CodeLine.ofLines, List.length_cons, ih, List.length_cons]

/-- **Line by line a file is read as a whole.**  Every line has the code, the braces and the open
    block comment that a lexer finds on it in the lines joined by line feeds. -/
theorem ofLines_eq_lexedLines (lines : List Text) (h : ∀ line ∈ lines, '\n' ∉ line) :
    (CodeLine.ofLines false lines).map (fun line => (line, line.braces)) =
      ((lexedLines (lex .code (join ['\n'] lines))).map
        fun line => (line.codeLine, line.braces)).take lines.length := by
  cases lines with
  | nil => rfl
  | cons line lines =>
    have hlines := ofLines_eq_of_cons false line lines h
    have hlength := congrArg List.length hlines
    rw [List.length_map, length_ofLines] at hlength
    rw [hlines, Lexis.ofLine, if_neg (by simp), Lexis.mode, hlength]
    exact List.take_length.symm

/-- A string literal with the beginning of a comment and an escaped quote in it, a comment that does
    not end where it begins, and a string literal that is cut off after a backslash. -/
def mixedLines : List Text :=
  ["a = \"/*\\\"\x7b\"; /*/ \x7b", "\x7b */ b = 1; // \x7d", "c = '\x7b\\", "\x7d */ \x7b"].map
    String.toList

theorem ofLines_mixedLines :
    (∀ line ∈ mixedLines, '\n' ∉ line) ∧
      (CodeLine.ofLines false mixedLines).map (fun line => (line, line.braces)) =
        [(⟨some "a = \"/*\\\"\x7b\";".toList, true⟩, ⟨0, 0⟩), (⟨some "b = 1;".toList, false⟩, ⟨0, 0⟩),
          (⟨some "c = '\x7b\\".toList, false⟩, ⟨0, 0⟩), (⟨some "\x7d */ \x7b".toList, false⟩, ⟨1, 1⟩)] := by
  have h : ∀ line ∈ mixedLines, '\n' ∉ line := by decide
  exact ⟨h, (ofLines_eq_lexedLines mixedLines h).trans (by decide)⟩

end FuzzCoverage.Solidity

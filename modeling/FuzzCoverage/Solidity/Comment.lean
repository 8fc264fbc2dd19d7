import FuzzCoverage.Text.Blank

/-! # Comments

Solidity has line comments, which end with their line, and block comments, which do not nest and
may run on over many lines.  Inside of a string literal neither kind begins; a string ends with
its line. -/

namespace FuzzCoverage.Solidity

inductive Lexis where
  | code
  /-- Inside of a string literal that ends at the next such quote. -/
  | quoted (quote : Char)
  | comment
  deriving DecidableEq, Repr

def isQuote (c : Char) : Bool := c = '"' || c = '\''

structure Stripped where
  text : Text
  inComment : Bool
  deriving DecidableEq, Repr

def Stripped.put (c : Char) (rest : Stripped) : Stripped := { rest with text := c :: rest.text }

/-- Takes the comments out of a line.  A block comment that ends on the line leaves a blank
    behind, so that what stood on its two sides does not grow together; the character after a
    backslash is part of its string whatever it is. -/
def strip : Lexis → Text → Stripped
  | .comment, '*' :: '/' :: rest => (strip .code rest).put ' '
  | .comment, _ :: rest => strip .comment rest
  | .comment, [] => ⟨[], true⟩
  | .quoted quote, '\\' :: c :: rest => ((strip (.quoted quote) rest).put c).put '\\'
  | .quoted quote, c :: rest => (strip (if c = quote then .code else .quoted quote) rest).put c
  | .quoted _, [] => ⟨[], false⟩
  | .code, '/' :: '/' :: _ => ⟨[], false⟩
  | .code, '/' :: '*' :: rest => strip .comment rest
  | .code, c :: rest => (strip (if isQuote c then .quoted c else .code) rest).put c
  | .code, [] => ⟨[], false⟩

theorem length_strip_le (site : Lexis) (line : Text) : (strip site line).text.length ≤ line.length := by
  fun_induction strip site line <;> simp only [Stripped.put, List.length_cons, List.length_nil] <;> omega

structure CodeLine where
  /-- The code without the blanks at its ends; `none` when nothing but comment and blanks was
      there. -/
  code : Option Text
  /-- Whether the next line begins inside of a block comment. -/
  inComment : Bool
  deriving DecidableEq, Repr

def CodeLine.of (inComment : Bool) (line : Text) : CodeLine :=
  let stripped := strip (if inComment then .comment else .code) line
  let code := stripped.text.trim
  { code := if code.isEmpty then none else some code, inComment := stripped.inComment }

theorem length_code_le {inComment : Bool} {line code : Text}
    (h : (CodeLine.of inComment line).code = some code) : code.length ≤ line.length := by
  have hstrip := length_strip_le (if inComment then .comment else .code) line
  simp only [CodeLine.of, Option.ite_none_left_eq_some, Option.some.injEq] at h
  obtain ⟨-, rfl⟩ := h
  exact Nat.le_trans (Text.length_trim_le _) hstrip

end FuzzCoverage.Solidity

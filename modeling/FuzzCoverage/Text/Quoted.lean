import FuzzCoverage.Text.Basic
import FuzzCoverage.Text.MarkTable
import FuzzCoverage.Text.QuotedTable

/-! # Quoted text

Messages quote a text so that it reads on one line: the quote and the backslash are escaped, the
usual controls have their letters, and what has no glyph of its own, or would attach to the
character before it, is written by its code. -/

namespace FuzzCoverage.Text

def codeEscape (c : Char) : Text :=
  ['\\', 'u', '\x7b'] ++ Nat.toDigits 16 c.toNat ++ ['\x7d']

def isHidden (c : Char) : Bool :=
  nonspacingRanges.has c || spacingExtenderRanges.has c || unprintableRanges.has c

def quotedChar (c : Char) : Text :=
  match c with
  | '\x00' => ['\\', '0']
  | '\t' => ['\\', 't']
  | '\r' => ['\\', 'r']
  | '\n' => ['\\', 'n']
  | '\\' => ['\\', '\\']
  | '"' => ['\\', '"']
  | _ =>
    if 0x20 ≤ c.toNat && c.toNat < 0x7F then [c]
    else if isHidden c then codeEscape c
    else [c]

def quoted (t : Text) : Text := '"' :: t.flatMap quotedChar ++ ['"']

end FuzzCoverage.Text

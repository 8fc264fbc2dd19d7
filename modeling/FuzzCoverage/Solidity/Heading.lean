import FuzzCoverage.Block.Kind
import FuzzCoverage.Text.Word

/-! # Headings

`Heading.of?` finds the beginning of a function-like unit in a line of code.  A function may begin
anywhere on the line; the other four kinds begin it. -/

namespace FuzzCoverage.Solidity

open Text

structure Heading where
  kind : BlockKind
  name : Text
  deriving DecidableEq, Repr

namespace Heading

def beginsIdentifier (c : Char) : Bool := c.isAlpha || c = '_' || c = '$'

def inIdentifier (c : Char) : Bool := isWord c || c = '$'

def identifier? : Text → Option (Text × Text)
  | [] => none
  | c :: rest =>
    if beginsIdentifier c then some (c :: rest.takeWhile inIdentifier, rest.dropWhile inIdentifier)
    else none

/-- The identifier that a keyword and blanks stand before, and what follows it. -/
def named? (keyword : Text) (t : Text) : Option (Text × Text) := do
  let rest ← t.after? keyword
  if rest.head?.any isBlank then identifier? rest.trimStart else none

def opensList (t : Text) : Bool := t.trimStart.head? = some '('

def functionHere? (t : Text) : Option Text := do
  let (name, rest) ← named? "function".toList t
  if opensList rest then some name else none

/-- The name of the first function that begins in a text whose preceding character belongs to a word
    or does not: a keyword inside of a longer word is none. -/
def findFunction? (afterWordChar : Bool) : Text → Option Text
  | [] => none
  | c :: rest =>
    match if afterWordChar then none else functionHere? (c :: rest) with
    | some name => some name
    | none => findFunction? (isWord c) rest

def isUnnamed (keyword : Text) (code : Text) : Bool := (code.after? keyword).any opensList

/-- The name of the modifier that a line begins: a parameter list, the body or the end of the line
    comes after it. -/
def modifier? (code : Text) : Option Text := do
  let (name, rest) ← named? "modifier".toList code
  match rest.trimStart with
  | [] => some name
  | c :: _ => if c = '(' || c = '\x7b' then some name else none

def unnamed (kind : BlockKind) : Heading := ⟨kind, kind.defaultName⟩

def of? (code : Text) : Option Heading :=
  match findFunction? false code with
  | some name => some ⟨.function, name⟩
  | none =>
    if isUnnamed "constructor".toList code then some (unnamed .constructor)
    else match modifier? code with
      | some name => some ⟨.modifier, BlockKind.modifier.defaultName ++ ':' :: name⟩
      | none =>
        if isUnnamed "receive".toList code then some (unnamed .receive)
        else if isUnnamed "fallback".toList code then some (unnamed .fallback)
        else none

end Heading

end FuzzCoverage.Solidity

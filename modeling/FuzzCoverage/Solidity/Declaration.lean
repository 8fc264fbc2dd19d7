import FuzzCoverage.Text.Word

/-! # Declarations without a value

A type, words that say where the variable lives or who sees it, a name and the closing semicolon,
as in `address owner;` or `mapping(address => uint256) private shares;`. -/

namespace FuzzCoverage.Solidity

open Text

/-- What type and variable names begin with. -/
def beginsName (c : Char) : Bool := c.isAlpha || c = '_'

def isVariableName : Text → Bool
  | [] => false
  | c :: rest => beginsName c && rest.all isWord

def storageWords : List Text :=
  ["public", "private", "internal", "constant", "immutable", "memory", "storage", "calldata",
    "payable", "transient"].map String.toList

/-- What follows a type in a bare declaration: storage words and the name, with blanks before each
    of them, and a semicolon at the very end. -/
def isVariableTail (t : Text) : Bool :=
  let names := (t.dropLast.splitOnP isBlank).filter (· ≠ [])
  t.getLast? = some ';' && t.head?.any isBlank
    && names.dropLast.all storageWords.contains && names.getLast?.any isVariableName

/-- Skips the bracketed sizes of array types, each with blanks before it, and at most `fuel` of
    them. -/
def skipBrackets : Nat → Text → Text
  | 0, t => t
  | fuel + 1, t =>
    match t.trimStart with
    | '[' :: rest =>
      match cut? ']' rest with
      | some (_, after) => skipBrackets fuel after
      | none => t
    | _ => t

def afterTypeName? : Text → Option Text
  | [] => none
  | c :: rest =>
    if beginsName c then
      let after := rest.dropWhile fun c => isWord c || c = '.'
      some (skipBrackets after.length after)
    else none

/-- What follows a mapping type: its parentheses reach to the last one that closes, hold something
    and stand on one line. -/
def afterMapping? (t : Text) : Option Text := do
  let rest ← t.after? "mapping".toList
  match rest.trimStart with
  | '(' :: inner =>
    let tail := (inner.reverse.takeWhile (· != ')')).reverse
    let held := inner.take (inner.length - tail.length - 1)
    if inner.contains ')' && !held.isEmpty && !held.contains '\n' then some tail else none
  | _ => none

/-- The words that begin a statement, which is no declaration even where it looks like one. -/
def statementWords : List Text :=
  ["return", "delete", "emit", "revert", "break", "continue", "throw", "else", "new"].map
    String.toList

def firstWord (code : Text) : Text := code.takeWhile fun c => isAlphanumeric c || c = '_'

def isBareDeclaration (code : Text) : Bool :=
  !statementWords.contains (firstWord code)
    && ((afterMapping? code).any isVariableTail || (afterTypeName? code).any isVariableTail)

end FuzzCoverage.Solidity

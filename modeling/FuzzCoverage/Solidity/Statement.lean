import FuzzCoverage.Solidity.Declaration

/-! # What a line of code may count as

Three tests on the comment-free code of a line decide how a row that no run reached is counted, and
which rows logical coverage looks at.  The scaffolding of declarations is never untouched; imports,
bare attributes and declarations without a value are not logical either. -/

namespace FuzzCoverage.Solidity

open Text

def isLoneBrace (code : Text) : Bool := code.trim = ['\x7d']

def punctuationLines : List Text :=
  ["\x7b", "\x7d", "(", ")", ");", "\x7d);", "\x7d else \x7b"].map String.toList

def visibilityWords : List Text :=
  ["public", "private", "external", "internal", "view"].map String.toList

def afterConsole? (code : Text) : Option Text :=
  match code.after? "console".toList with
  | some ('2' :: rest) => some rest
  | rest? => rest?

def isDebugPrint (code : Text) : Bool :=
  ((afterConsole? code).bind (after? · ".log".toList)).any fun rest =>
    rest.afterWord.trimStart.head? = some '('

/-- Whether a line looks like comment, though comments have been taken out. -/
def looksLikeComment (code : Text) : Bool :=
  "/*".toList.isPrefixOf code || "*".toList.isPrefixOf code || "//".toList.isPrefixOf code

/-- Whether a line is the end of a signature that stretches over several lines. -/
def isSignatureTail (code : Text) : Bool :=
  code.head? = some ')' && code.getLast? = some '\x7b'

def mayBeUntouched (code : Text) : Bool :=
  let code := code.trim
  !code.isEmpty && !"function".toList.isPrefixOf code && !punctuationLines.contains code
    && !isSignatureTail code && !code.mentions visibilityWords && !looksLikeComment code
    && !isDebugPrint code

def headerWords : List Text :=
  ["contract", "library", "interface", "struct", "enum", "event", "error", "type", "using"].map
    String.toList

def isDefinitionHeader (code : Text) : Bool :=
  headerWords.contains code.leadingWord
    || (code.leadingWord = "abstract".toList
      && code.afterWord.trimStart.leadingWord = "contract".toList)

def plainAttributes : List Text :=
  ["public", "private", "internal", "external", "view", "pure", "payable", "virtual"].map
    String.toList

def afterParentheses? (t : Text) : Option Text :=
  match t.trimStart with
  | '(' :: rest => (cut? ')' rest).map (·.2)
  | _ => none

/-- What follows one attribute of a heading.  `override` may have a list behind it, and `returns`
    has one. -/
def afterAttribute? (t : Text) : Option Text :=
  plainAttributes.findSome? (fun word => t.after? word)
    <|> ((t.after? "override".toList).map fun rest => (afterParentheses? rest).getD rest)
    <|> ((t.after? "returns".toList).bind afterParentheses?)

def skipAttributes : Nat → Text → Text
  | 0, t => t
  | fuel + 1, t =>
    match afterAttribute? t with
    | some rest => skipAttributes fuel rest.trimStart
    | none => t

/-- Whether a line holds attributes of a heading only, and perhaps the brace or the semicolon after
    them. -/
def isAttributesOnly (code : Text) : Bool :=
  match afterAttribute? code with
  | none => false
  | some rest =>
    let rest := skipAttributes rest.length rest.trimStart
    rest.isEmpty || rest = ['\x7b'] || rest = [';']

def isLogical (code : Text) : Bool :=
  mayBeUntouched code
    && (let code := code.trim
        !"import".toList.isPrefixOf code && !"pragma".toList.isPrefixOf code
          && !isDefinitionHeader code && !isAttributesOnly code && !isBareDeclaration code)

end FuzzCoverage.Solidity

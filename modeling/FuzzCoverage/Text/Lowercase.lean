import FuzzCoverage.Text.Basic
import FuzzCoverage.Text.LowercaseTable

/-! # Lower case

Two characters need more than a table: a dotted capital I becomes an i and a combining dot, and a
capital sigma at the end of a word becomes a final sigma. -/

namespace FuzzCoverage.Text

def CaseRun.holds (run : CaseRun) (code : Nat) : Bool :=
  run.first ≤ code && code ≤ run.last && (code - run.first) % run.stride == 0

def lowercaseChar (c : Char) : Text :=
  if c.toNat < 0x80 then [c.toLower]
  else if c = '\u0130' then ['i', '\u0307']
  else match lowercaseRuns.find? (·.holds c.toNat) with
    | some run => [Char.ofNat (c.toNat + run.shift).toNat]
    | none => [c]

/-- Whether the first character that is not passed over has a case. -/
def cased (t : Text) : Bool :=
  match t.dropWhile caseIgnorableRanges.has with
  | [] => false
  | c :: _ => casedRanges.has c

/-- The lower-case form of what follows `before`, whose characters are given last one first: a sigma
    is final when a cased character stands before it and none after it. -/
def lowercaseAfter (before : Text) : Text → Text
  | [] => []
  | c :: rest =>
    let image :=
      if c = 'Σ' then [if cased before && !cased rest then 'ς' else 'σ'] else lowercaseChar c
    image ++ lowercaseAfter (c :: before) rest

def lowercase (t : Text) : Text := lowercaseAfter [] t

def asciiLowercase (t : Text) : Text := t.map Char.toLower

end FuzzCoverage.Text

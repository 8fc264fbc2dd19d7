import FuzzCoverage.Block.Kind
import FuzzCoverage.Solidity.Statement
import FuzzCoverage.Trace.Row

/-! # Blocks

A block collects what the rows of one unit of code add to coverage; `Outcome.of` is the rule for one
row. -/

namespace FuzzCoverage

inductive CountingMode where
  /-- Every line that has a counter and is no scaffolding. -/
  | standard
  /-- Only lines that do something. -/
  | logical
  deriving DecidableEq, Repr

/-- How many lines of a block fared in which way.  The logical tallies only grow for lines that
    count in logical coverage. -/
structure Tallies where
  covered : Nat := 0
  reverted : Nat := 0
  untouched : Nat := 0
  logicalCovered : Nat := 0
  logicalUntouched : Nat := 0
  deriving DecidableEq, Repr

namespace Tallies

def coveredIn (t : Tallies) : CountingMode → Nat
  | .standard => t.covered
  | .logical => t.logicalCovered

def untouchedIn (t : Tallies) : CountingMode → Nat
  | .standard => t.untouched
  | .logical => t.logicalUntouched

def counted (t : Tallies) : Nat := t.covered + t.reverted + t.untouched

end Tallies

/-! ## The rule for one row -/

inductive Outcome where
  | uncounted
  | covered (logical : Bool)
  /-- The line ran before it reverted, so that it counts as logically covered as well. -/
  | reverted (snippet : Text)
  | untouched (logical : Bool) (snippet : Text)
  deriving DecidableEq, Repr

/-- How a row with this comment-free code counts.  A row without a counter and a lone closing
    brace never do; a marked row counts whatever its code is; an unmarked one only if it may be
    reported as untouched. -/
def Outcome.of (row : Trace.Row) (code : Text) : Outcome :=
  if !row.isActive || Solidity.isLoneBrace code then .uncounted
  else match row.marker with
    | .covered => .covered (Solidity.isLogical code)
    | .reverted => .reverted row.source
    | .unmarked =>
      if Solidity.mayBeUntouched code then
        .untouched (Solidity.isLogical code) row.source
      else .uncounted

def Tallies.add (t : Tallies) : Outcome → Tallies
  | .uncounted => t
  | .covered logical =>
    { t with covered := t.covered + 1, logicalCovered := t.logicalCovered + logical.toNat }
  | .reverted _ =>
    { t with reverted := t.reverted + 1, logicalCovered := t.logicalCovered + 1 }
  | .untouched logical _ =>
    { t with untouched := t.untouched + 1, logicalUntouched := t.logicalUntouched + logical.toNat }

def Outcome.revertedSnippets : Outcome → List Text
  | .reverted snippet => [snippet]
  | _ => []

def Outcome.untouchedSnippets : Outcome → List Text
  | .untouched _ snippet => [snippet]
  | _ => []

/-! ## Blocks -/

structure Block where
  kind : BlockKind
  name : Text
  tallies : Tallies := {}
  revertedSnippets : List Text := []
  untouchedSnippets : List Text := []
  /-- Whether its heading says that it does not change the state. -/
  viewPure : Bool := false
  /-- The rows that belong to it, those that count for nothing included. -/
  rowCount : Nat := 0
  /-- Full coverage in the standard mode, as it was when the block was closed. -/
  isFullyCovered : Bool := false
  deriving DecidableEq, Repr

namespace Block

def outside : Block :=
  { kind := .contractLevel, name := BlockKind.contractLevel.defaultName }

def skipRow (b : Block) : Block := { b with rowCount := b.rowCount + 1 }

def add (b : Block) (outcome : Outcome) : Block :=
  { b with
    tallies := b.tallies.add outcome
    revertedSnippets := b.revertedSnippets ++ outcome.revertedSnippets
    untouchedSnippets := b.untouchedSnippets ++ outcome.untouchedSnippets }

def record (b : Block) (row : Trace.Row) (code : Text) : Block :=
  (b.add (Outcome.of row code)).skipRow

def isTouched (b : Block) : Bool := b.tallies.covered != 0 || b.tallies.reverted != 0

def isReverted (b : Block) : Bool := b.tallies.reverted != 0

def isFullyCoveredIn (b : Block) (mode : CountingMode) : Bool :=
  b.tallies.coveredIn mode != 0 && b.tallies.untouchedIn mode == 0 && b.tallies.reverted == 0

def complete (b : Block) : Block := { b with isFullyCovered := b.isFullyCoveredIn .standard }

end Block

end FuzzCoverage

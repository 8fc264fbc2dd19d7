import FuzzCoverage.Scan.State

/-! # The blocks of a file

The header of an assembly block has no counter of its own, and takes the outcome of the row after
it.  The block for what lies outside of every function comes last and is never left out. -/

namespace FuzzCoverage.Scan

open Trace

def parseRows (lines : List Text) : List Row := lines.filterMap Row.parse?

def isAssemblyHeader (row : Row) : Bool :=
  !row.isActive && "assembly".toList.isPrefixOf row.source && row.source.contains '\x7b'

def fillAssemblyHeaders : List Row → List Row
  | [] => []
  | [row] => [row]
  | row :: next :: rest =>
    (if isAssemblyHeader row then row.withOutcomeOf next else row)
      :: fillAssemblyHeaders (next :: rest)

def withoutViewPure (allFunctions : Bool) (blocks : List Block) : List Block :=
  if allFunctions || blocks.all (·.viewPure) then blocks
  else blocks.filter (!·.viewPure)

def afterLines (lines : List Text) : State :=
  ({} : State).run (fillAssemblyHeaders (parseRows lines))

def fileBlocks (allFunctions : Bool) (lines : List Text) : List Block :=
  let state := afterLines lines
  withoutViewPure allFunctions state.blocks ++ state.residue?.toList

end FuzzCoverage.Scan

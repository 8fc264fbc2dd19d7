import FuzzCoverage.Coverage
import FuzzCoverage.Scan.File
import FuzzCoverage.Trace.Segment

/-! # Reports

`analyze` takes a trace to one `FileReport` for each source file that is not left out, in the
order in which the files first occur.  Files are scanned each on its own. -/

namespace FuzzCoverage

structure FunctionReport where
  name : Text
  touched : Bool
  reverted : Bool
  isFullyCovered : Bool
  untouchedLineCount : Nat
  revertedSnippets : List Text
  untouchedSnippets : List Text
  deriving DecidableEq, Repr

def FunctionReport.ofBlock (mode : CountingMode) (b : Block) : FunctionReport where
  name := b.name
  touched := b.isTouched
  reverted := b.isReverted
  isFullyCovered := b.isFullyCoveredIn mode
  untouchedLineCount := b.tallies.untouchedIn mode
  revertedSnippets := b.revertedSnippets
  untouchedSnippets := b.untouchedSnippets

structure FileReport where
  path : SourcePath
  functions : List FunctionReport
  coverage : Coverage
  deriving DecidableEq, Repr

namespace FileReport

def ofBlocks (mode : CountingMode) (path : SourcePath) (blocks : List Block) : FileReport where
  path := path
  functions := blocks.map (FunctionReport.ofBlock mode)
  coverage := Coverage.ofBlocks mode blocks

def ofSegment (o : Options) (s : Trace.Segment) : FileReport :=
  ofBlocks o.mode s.path (Scan.fileBlocks o.allFunctions s.lines)

def incompleteFunctions (r : FileReport) : List FunctionReport :=
  r.functions.filter (!·.isFullyCovered)

/-- Whether the key of the file holds a name, whatever the case of their letters. -/
def isOfContract (contract : Text) (r : FileReport) : Bool :=
  contract.lowercase.occursIn r.path.key.lowercase

def isBelow {α : Type} [PercentArith α] (threshold : α) (r : FileReport) : Bool :=
  r.coverage.linePercentage.isBelow threshold

end FileReport

def analyze (o : Options) (trace : Text) : List FileReport :=
  (Trace.segments o trace).map (FileReport.ofSegment o)

def onlyContract (contract : Text) (reports : List FileReport) : List FileReport :=
  reports.filter (FileReport.isOfContract contract)

def belowThreshold {α : Type} [PercentArith α] (threshold : α) (reports : List FileReport) :
    List FileReport :=
  reports.filter (FileReport.isBelow threshold)

end FuzzCoverage

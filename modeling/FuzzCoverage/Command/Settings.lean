import FuzzCoverage.Command.Arguments
import FuzzCoverage.Failure
import FuzzCoverage.Report.Sheet

/-! # Settings of a run -/

namespace FuzzCoverage

inductive TraceOrigin where
  | file (path : Text)
  /-- The newest trace of this folder. -/
  | folder (path : Text)
  deriving DecidableEq, Repr

structure Settings where
  source : TraceOrigin
  scan : Options
  format : ReportForm
  verbosity : Detail
  threshold : Float
  failUnder : Bool
  contract : Option Text
  scopeFile : Option Text

open PercentArith in
def isThreshold {α : Type} [PercentArith α] (t : α) : Bool :=
  (less (ofCount 0) t || same (ofCount 0) t) && (less t (ofCount 100) || same t (ofCount 100))

namespace Settings

def defaultThreshold : Float := 70

def scanDraft (a : Arguments) : Options.Draft where
  allFunctions := some a.allFunctions
  mode := some (if a.logical then .logical else .standard)
  sourceOnly := some a.sourceOnly
  exclude := some a.exclude

/-- Where the trace comes from: a file goes before a folder. -/
def sourceOf (a : Arguments) : TraceOrigin :=
  match a.file with
  | some path => .file path
  | none => .folder (a.echidnaFolder.getD [])

def ofArguments (a : Arguments) : Except Failure Settings := do
  let threshold := a.threshold.getD defaultThreshold
  if !isThreshold threshold then .error (.threshold threshold)
  let scan ← (scanDraft a).build.mapError .options
  return {
    source := sourceOf a
    scan
    format := a.format.getD .table
    verbosity := .ofCount a.verbose
    threshold
    failUnder := a.failUnder
    contract := a.contract.filter fun name => !name.allBlank
    scopeFile := a.scopeFile }

end Settings

end FuzzCoverage

import FuzzCoverage.Layout.Document
import FuzzCoverage.Scope.Summary

/-! # Reports for programs

The fields and their order are part of what programs that read a document rely on. -/

namespace FuzzCoverage

open Layout (Document)

def snippetsDocument (snippets : List Text) : Document := .list (snippets.map .text)

def recordDocument (fields : List (String × Document)) : Document :=
  .record (fields.map fun (name, value) => (name.toList, value))

def FunctionReport.document (f : FunctionReport) : Document :=
  recordDocument [
    ("name", .text f.name),
    ("touched", .truth f.touched),
    ("reverted", .truth f.reverted),
    ("isFullyCovered", .truth f.isFullyCovered),
    ("untouchedLineCount", .natural f.untouchedLineCount),
    ("revertedSnippets", snippetsDocument f.revertedSnippets),
    ("untouchedSnippets", snippetsDocument f.untouchedSnippets)]

def Coverage.document (c : Coverage) : Document :=
  recordDocument [
    ("totalFunctions", .natural c.totalFunctions),
    ("fullyCoveredFunctions", .natural c.fullyCoveredFunctions),
    ("coveredLines", .natural c.coveredLines),
    ("revertedLines", .natural c.revertedFunctions),
    ("untouchedLines", .natural c.untouchedLines),
    ("functionCoveragePercentage", .number c.functionPercentage.value),
    ("lineCoveragePercentage", .number c.linePercentage.value)]

def FileReport.document (r : FileReport) : Document :=
  recordDocument [
    ("filePath", .text r.path.key),
    ("functions", .list (r.functions.map FunctionReport.document)),
    ("coverage", r.coverage.document)]

def ScopeSummary.document (s : ScopeSummary) : Document :=
  recordDocument [
    ("filesInScope", .natural s.filesInScope),
    ("filesMatched", .natural s.filesMatched),
    ("coveredLines", .natural s.coveredLines),
    ("untouchedLines", .natural s.untouchedLines),
    ("lineCoveragePercentage", .number s.linePercentage.value),
    ("missing", .list (s.missing.map .text))]

/-- The reports alone are a list; with a scope they and its coverage are a record. -/
def reportsDocument (reports : List FileReport) (scope : Option ScopeSummary) : Document :=
  let files : Document := .list (reports.map FileReport.document)
  match scope with
  | none => files
  | some scope => recordDocument [("files", files), ("scope", scope.document)]

end FuzzCoverage

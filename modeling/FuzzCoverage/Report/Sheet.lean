import FuzzCoverage.Layout.Grid
import FuzzCoverage.Scope.Summary

/-! # Reports for people

A sheet has a ruled heading for every file, a grid with its figures and, where more detail is asked
for, the functions that are not fully covered and their lines. -/

namespace FuzzCoverage

open Layout (Grid)

inductive Detail where
  | summary
  | functions
  /-- The functions' untouched and reverted lines too. -/
  | lines
  deriving DecidableEq, Repr

def Detail.ofCount : Nat → Detail
  | 0 => .summary
  | 1 => .functions
  | _ => .lines

def sheetRule : Text := List.replicate 50 '═'

def countCell (n : Nat) : Text := Decimal.digitsOf n

def truthCell (b : Bool) : Text := (if b then "true" else "false").toList

def Coverage.grid (c : Coverage) : Grid where
  header := ["Metric", "Value"].map String.toList
  rows := [
    ["totalFunctions".toList, countCell c.totalFunctions],
    ["fullyCoveredFunctions".toList, countCell c.fullyCoveredFunctions],
    ["coveredLines".toList, countCell c.coveredLines],
    ["revertedLines".toList, countCell c.revertedFunctions],
    ["untouchedLines".toList, countCell c.untouchedLines],
    ["functionCoveragePercentage".toList, c.functionPercentage.display],
    ["lineCoveragePercentage".toList, c.linePercentage.display]]

def functionsGrid (functions : List FunctionReport) : Grid where
  header := ["Function", "Touched", "Reverted", "Untouched lines"].map String.toList
  rows := functions.map fun f =>
    [f.name, truthCell f.touched, truthCell f.reverted, countCell f.untouchedLineCount]

/-- A title and lines below it, or nothing where there are no lines. -/
def titledSnippets (title : String) (snippets : List Text) : List Text :=
  if snippets.isEmpty then [] else title.toList :: snippets.map ("    ".toList ++ ·)

def FunctionReport.snippetLines (f : FunctionReport) : List Text :=
  let body := titledSnippets "Untouched lines:" f.untouchedSnippets
    ++ titledSnippets "Reverted lines:" f.revertedSnippets
  if body.isEmpty then [] else [] :: ("Function: ".toList ++ f.name) :: body

def FileReport.functionLines (verbosity : Detail) (r : FileReport) : List Text :=
  let functions := r.incompleteFunctions
  if verbosity = .summary || functions.isEmpty then []
  else
    [] :: "Not fully covered functions:".toList :: (functionsGrid functions).lines
      ++ if verbosity = .lines then functions.flatMap FunctionReport.snippetLines else []

def FileReport.warningLines (threshold : Float) (r : FileReport) : List Text :=
  if r.isBelow threshold then
    ["Warning: Coverage ".toList ++ r.coverage.linePercentage.display ++ " below threshold ".toList
      ++ Decimal.plain threshold ++ ['%']]
  else []

/-- What a sheet says about a file.  A summary of one without any covered line is a single line. -/
def FileReport.sheetLines (verbosity : Detail) (threshold : Float) (r : FileReport) : List Text :=
  [] :: sheetRule :: ("File: ".toList ++ r.path.key) :: sheetRule ::
    if r.coverage.hasNothingCovered && verbosity = .summary then ["File totally uncovered".toList]
    else
      r.coverage.grid.lines ++ r.functionLines verbosity ++ r.warningLines threshold ++ [sheetRule]

def ScopeSummary.sheetLines (s : ScopeSummary) : List Text :=
  [] :: ("Scope coverage: ".toList ++ s.linePercentage.display ++ " (".toList
      ++ countCell s.coveredLines ++ " of ".toList ++ countCell s.lines ++ " lines, ".toList
      ++ countCell s.filesMatched ++ " of ".toList ++ countCell s.filesInScope
      ++ " files matched)".toList)
    :: s.missing.map ("  not in trace: ".toList ++ ·)

def sheetLines (verbosity : Detail) (threshold : Float) (reports : List FileReport)
    (scope : Option ScopeSummary) : List Text :=
  (if reports.isEmpty then ["No source files found in trace".toList] else [])
    ++ reports.flatMap (FileReport.sheetLines verbosity threshold)
    ++ (scope.map ScopeSummary.sheetLines).getD []

end FuzzCoverage

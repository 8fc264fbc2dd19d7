import FuzzCoverage.Report.Basic

/-! # Coverage of a scope

Files are compared by their names alone, so an entry may give any path to its file, and an entry
whose file has no report is missing. -/

namespace FuzzCoverage

structure ScopeSummary where
  filesInScope : Nat
  filesMatched : Nat
  coveredLines : Nat
  untouchedLines : Nat
  missing : List Text
  deriving DecidableEq, Repr

namespace ScopeSummary

/-- The name of the file at the end of a path, whichever slashes it has. -/
def fileNameOf (path : Text) : Text :=
  ((path.trim.splitOnP fun c => c = '/' || c = '\\').getLast?).getD []

def matching (reports : List FileReport) (entry : Text) : List FileReport :=
  reports.filter fun r => r.path.fileName = fileNameOf entry

/-- A report counts once for every entry that matches it. -/
def ofReports (reports : List FileReport) (scope : List Text) : ScopeSummary :=
  let matched := scope.flatMap (matching reports)
  { filesInScope := scope.length
    filesMatched := scope.countP fun entry => !(matching reports entry).isEmpty
    coveredLines := Count.total (matched.map (·.coverage.coveredLines))
    untouchedLines := Count.total (matched.map (·.coverage.untouchedLines))
    missing := scope.filter fun entry => (matching reports entry).isEmpty }

def lines (s : ScopeSummary) : Nat := s.coveredLines + s.untouchedLines

def linePercentage {α : Type} [PercentArith α] (s : ScopeSummary) : Percentage α :=
  .ofRatio s.coveredLines s.lines

end ScopeSummary

end FuzzCoverage

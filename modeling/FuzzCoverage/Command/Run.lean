import FuzzCoverage.Command.Settings
import FuzzCoverage.Disk.TraceFolder
import FuzzCoverage.Report.Document

/-! # Runs of the program

`execute` is the whole program, from the words of the command line to what is written and the exit
status. -/

namespace FuzzCoverage

structure Findings where
  reports : List FileReport
  scope : Option ScopeSummary

/-- A result, or why there is none, and the notices up to that point. -/
structure Logged (α : Type) where
  notices : List Notice
  result : Except Failure α

def missesThreshold {α : Type} [PercentArith α] (failUnder : Bool) (threshold : α)
    (reports : List FileReport) : Bool :=
  failUnder && !(belowThreshold threshold reports).isEmpty

def selectReports (o : Options) (contract : Option Text) (trace : Text) : List FileReport :=
  match contract with
  | none => analyze o trace
  | some name => onlyContract name (analyze o trace)

namespace Settings

variable {m : Type → Type} [Monad m]

def tracePath (s : Settings) (disk : Disk m) : m (Except Failure (Text × List Notice)) := do
  match s.source with
  | .file path => return .ok (path, [.analyzing path])
  | .folder folder =>
    return (← newestTrace disk folder).map fun (path, notice) => (path, [notice, .analyzing path])

def scopeSummary (s : Settings) (disk : Disk m) (reports : List FileReport) :
    m (Except Failure (Option ScopeSummary)) := do
  match s.scopeFile with
  | none => return .ok none
  | some path =>
    match ← disk.read path with
    | .error fault => return .error (.scopeRead fault)
    | .ok text =>
      return ((ScopeEntry.readAll text).mapError (.scope path)).map fun entries =>
        some (ScopeSummary.ofReports reports (entries.map (·.path)))

def run (s : Settings) (disk : Disk m) : m (Logged Findings) := do
  match ← s.tracePath disk with
  | .error failure => return ⟨[], .error failure⟩
  | .ok (path, notices) =>
    match ← traceText disk path with
    | .error failure => return ⟨notices, .error failure⟩
    | .ok trace =>
      let notices := notices ++ analysisNotices s.scan trace
      let reports := selectReports s.scan s.contract trace
      return ⟨notices, (← s.scopeSummary disk reports).map fun scope => ⟨reports, scope⟩⟩

end Settings

/-! ## What is written -/

def unlines (lines : List Text) : Text := lines.flatMap (· ++ ['\n'])

def Findings.output (s : Settings) (r : Findings) : Text :=
  match s.format with
  | .json => (reportsDocument r.reports r.scope).pretty ++ ['\n']
  | .table => unlines (sheetLines s.verbosity s.threshold r.reports r.scope)

/-- The warnings beside a document, which leave it readable for programs. -/
def Findings.warnings (s : Settings) (r : Findings) : List Text :=
  match s.format with
  | .table => []
  | .json => (belowThreshold s.threshold r.reports).map fun report =>
      "Warning: ".toList ++ report.path.key ++ " coverage ".toList
        ++ report.coverage.linePercentage.display ++ " below threshold ".toList
        ++ Decimal.plain s.threshold ++ ['%']

structure Completion where
  exitCode : Nat
  stdout : Text
  stderr : Text

/-- What the log holds: what the environment asks for, or else a little, or the details on
    demand. -/
def logFilterOf (a : Arguments) (environment : Option Text) : LogFilter :=
  match environment with
  | some word => .ofWord word
  | none => { level := if a.debug then .debug else .warn }

def Completion.ofFailure (log : List Text) (failure : Failure) : Completion where
  exitCode := 1
  stdout := []
  stderr := unlines (log ++ ["Application Error: ".toList ++ failure.chain])

def Completion.ofResult (log : List Text) (s : Settings) (r : Findings) : Completion where
  exitCode := if missesThreshold s.failUnder s.threshold r.reports then 1 else 0
  stdout := r.output s
  stderr := unlines (log ++ r.warnings s)

def execute {m : Type → Type} [Monad m] (disk : Disk m) (logWord : Option Text)
    (words : List Text) : m (Except Stop Completion) := do
  match Arguments.read words with
  | .error stop => return .error stop
  | .ok arguments =>
    match Settings.ofArguments arguments with
    | .error failure => return .ok (.ofFailure [] failure)
    | .ok settings =>
      let run ← settings.run disk
      let log := (run.notices.filter (Notice.isLogged (logFilterOf arguments logWord))).map
        Notice.line
      match run.result with
      | .error failure => return .ok (.ofFailure log failure)
      | .ok result => return .ok (.ofResult log settings result)

end FuzzCoverage

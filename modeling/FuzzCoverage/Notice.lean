import FuzzCoverage.Report.Basic
import FuzzCoverage.Text.Quoted

/-! # Notices

While a trace is analysed, notices tell what is done with its files and blocks.  They are read off
the same data as the reports and have no part in them. -/

namespace FuzzCoverage

inductive LogLevel where
  | off
  | error
  | warn
  | info
  | debug
  | trace
  deriving DecidableEq, Repr

namespace LogLevel

def rank : LogLevel → Nat
  | .off => 0
  | .error => 1
  | .warn => 2
  | .info => 3
  | .debug => 4
  | .trace => 5

def word : LogLevel → String
  | .off => "OFF"
  | .error => "ERROR"
  | .warn => "WARN"
  | .info => "INFO"
  | .debug => "DEBUG"
  | .trace => "TRACE"

def ofWord? (word : Text) : Option LogLevel :=
  [.off, .error, .warn, .info, .debug, .trace].find? fun level : LogLevel =>
    Text.asciiLowercase level.word.toList = word.asciiLowercase

end LogLevel

/-- What a log holds: the notices up to a level, of the parts of the program whose names begin with
    `part`. -/
structure LogFilter where
  level : LogLevel
  part : Text := []
  deriving DecidableEq, Repr

/-- What a word asks to be logged: a level stands for itself, no word for errors alone, and any
    other word for everything about the parts of the program whose names begin with it. -/
def LogFilter.ofWord (word : Text) : LogFilter :=
  let word := word.trim
  if word.isEmpty then { level := .error }
  else match LogLevel.ofWord? word with
    | some level => { level }
    | none => { level := .trace, part := word }

inductive Notice where
  | newestTrace (folder trace : Text)
  | analyzing (trace : Text)
  | excluded (path : SourcePath) (reason : Exclusion)
  /-- Two files have one key, and their lines become one. -/
  | sharedKey (first second : SourcePath)
  | filesToScan (count : Nat)
  | malformedRow (row : Text)
  /-- A heading gave way to the next one before its body began. -/
  | headingGivenUp (name : Text)
  | bodilessDropped (name : Text)
  | blockClosed (block : Block)
  | bodyCutOff
  | headingCutOff (name : Text)
  | onlyViewPure
  deriving DecidableEq, Repr

namespace Notice

def level : Notice → LogLevel
  | .analyzing _ => .info
  | .sharedKey _ _ => .warn
  | .malformedRow _ => .trace
  | _ => .debug

def target : Notice → String
  | .newestTrace _ _ => "echidna_coverage_engine::filesystem"
  | .analyzing _ => "echidna_coverage_cli"
  | .excluded _ _ | .sharedKey _ _ => "echidna_coverage_engine::segmenter"
  | .filesToScan _ => "echidna_coverage_engine"
  | _ => "echidna_coverage_engine::scanner"

def named (name : Text) : Text := '`' :: name ++ ['`']

def message : Notice → Text
  | .newestTrace folder trace => "latest trace in ".toList ++ folder ++ ": ".toList ++ trace
  | .analyzing trace => "analyzing ".toList ++ trace
  | .excluded path reason =>
    "excluding ".toList ++ path.full ++ " (".toList ++ reason.label.toList ++ [')']
  | .sharedKey first second =>
    first.full ++ " and ".toList ++ second.full ++ " share the key ".toList ++ second.key
      ++ "; merging their rows".toList
  | .filesToScan count => Decimal.digitsOf count ++ " source files to scan".toList
  | .malformedRow row => "skipping malformed trace row: ".toList ++ row.quoted
  | .headingGivenUp name => "dropping declaration ".toList ++ named name ++ " without a body".toList
  | .bodilessDropped name => "dropping bodiless declaration ".toList ++ named name
  | .blockClosed block =>
    "closed ".toList ++ block.kind.label.toList ++ [' '] ++ named block.name
      ++ ": covered=".toList ++ Decimal.digitsOf block.tallies.covered
      ++ " reverted=".toList ++ Decimal.digitsOf block.tallies.reverted
      ++ " untouched=".toList ++ Decimal.digitsOf block.tallies.untouched
  | .bodyCutOff => "trace ended inside a block body; keeping partial block".toList
  | .headingCutOff name => "trace ended inside declaration ".toList ++ named name
  | .onlyViewPure => "every block is view/pure; keeping them all".toList

def levelColumn (level : LogLevel) : Text :=
  level.word.toList ++ List.replicate (5 - level.word.length) ' '

/-- The lines of a message after its first are set in. -/
def line (n : Notice) : Text :=
  '[' :: levelColumn n.level ++ ' ' :: n.target.toList ++ ']' :: ' ' ::
    n.message.flatMap fun c => if c = '\n' then "\n    ".toList else [c]

def isLogged (filter : LogFilter) (n : Notice) : Bool :=
  n.level.rank ≤ filter.level.rank && filter.part.isPrefixOf n.target.toList

end Notice

/-! ## The notices of a file -/

namespace Scan

/-- What a row does to the block that the scan stands in once the row's code has been looked at
    for a heading. -/
def endingNotices (before after : State) (code : Text) : List Notice :=
  match (before.phase.enter code).block?, after.phase with
  | some block, .outside =>
    match after.closed.drop before.closed.length with
    | [] => [.bodilessDropped block.name]
    | closed => closed.map .blockClosed
  | _, _ => []

def stepNotices (s : State) (row : Trace.Row) : List Notice :=
  match (Solidity.CodeLine.of s.inComment row.source).code with
  | none => []
  | some code =>
    (match s.phase, Solidity.Heading.of? code with
      | .heading block, some _ => [.headingGivenUp block.name]
      | _, _ => [])
    ++ endingNotices s (s.step row) code

def runNotices (s : State) : List Trace.Row → List Notice
  | [] => []
  | row :: rest => stepNotices s row ++ runNotices (s.step row) rest

def endNotices (s : State) : List Notice :=
  match s.phase with
  | .outside => []
  | .heading block => [.headingCutOff block.name]
  | .body block _ => [.bodyCutOff, .blockClosed block.complete]

def fileNotices (allFunctions : Bool) (lines : List Text) : List Notice :=
  let rows := fillAssemblyHeaders (parseRows lines)
  let state := ({} : State).run rows
  let malformed := lines.filter fun line => (Trace.Row.parse? line).isNone && !line.allBlank
  malformed.map .malformedRow ++ runNotices {} rows ++ endNotices state
    ++ if !allFunctions && !state.blocks.isEmpty && state.blocks.all (·.viewPure) then
        [.onlyViewPure]
      else []

end Scan

/-! ## The notices of a trace -/

namespace Trace

/-- The notices of the markers of a trace, where `seen` are the files that have lines so far. -/
def segmentNotices (o : Options) (seen : List SourcePath) : List Segment → List Notice
  | [] => []
  | s :: rest =>
    match Exclusion.of? o s.path with
    | some reason => .excluded s.path reason :: segmentNotices o seen rest
    | none =>
      match seen.find? (·.key = s.key) with
      | none => segmentNotices o (seen ++ [s.path]) rest
      | some first =>
        (if first = s.path then [] else [.sharedKey first s.path]) ++ segmentNotices o seen rest

end Trace

def analysisNotices (o : Options) (trace : Text) : List Notice :=
  let segments := Trace.segments o trace
  Trace.segmentNotices o [] (Trace.sections trace.lines) ++ .filesToScan segments.length
    :: segments.flatMap fun s => Scan.fileNotices o.allFunctions s.lines

end FuzzCoverage

import FuzzCoverage.Checked.Machine
import FuzzCoverage.Report.Basic

/-! # The analysis with every operation checked

`Checked.analyze` is the analysis of a trace in which counts are kept in words, the depth of open
braces in a signed word, lists are read at places and texts are cut at bytes.  An operation outside
of its range ends it with a `Fault`.  Each stage of `analyze` has its counterpart here. -/

namespace FuzzCoverage.Checked

open Solidity Scan Trace

/-! ## Markers -/

def key (path : SourcePath) : Except Fault Text := do
  let directory ← entry path.parts (← sub path.parts.length 2)
  let name ← entry path.parts (← sub path.parts.length 1)
  return Text.join ['/'] [directory, name]

def marker? (line : Text) : Except Fault (Option (SourcePath × Text)) :=
  let full := line.trimEnd
  if full.head? = some '/' then do
    let rest ← fromByte 1 full
    if rest.contains '/' then return some (⟨full⟩, ← key ⟨full⟩)
    else return none
  else return none

/-! ## Files -/

structure Files where
  segments : List Segment := []
  places : List (Text × Nat) := []
  current : Option Nat := none
  deriving DecidableEq, Repr

namespace Files

/-- Goes on with the file of a key, which is a new one or has been visited before.  The path that it
    was visited by is looked at, to tell when two paths share a key. -/
def visit (files : Files) (path : SourcePath) (key : Text) : Except Fault Files :=
  match files.places.lookup key with
  | some place => do
    let _ ← entry files.segments place
    return { files with current := some place }
  | none => do
    let segments := files.segments ++ [⟨path, []⟩]
    let place ← sub segments.length 1
    let _ ← entry segments place
    return { segments, places := (key, place) :: files.places, current := some place }

def append (files : Files) (line : Text) : Except Fault Files :=
  match files.current with
  | none => return files
  | some place => do
    let s ← entry files.segments place
    return { files with segments := files.segments.set place { s with lines := s.lines ++ [line] } }

def read (o : Options) (files : Files) (line : Text) : Except Fault Files := do
  match ← marker? line with
  | some (path, key) =>
    if isKept o path then files.visit path key else return { files with current := none }
  | none => files.append line

end Files

def segments (o : Options) (trace : Text) : Except Fault (List Segment) := do
  let files ← trace.lines.foldlM (Files.read o) {}
  return files.segments

/-! ## Rows -/

/-- The source of a row in the legacy layout: what is left of the row after the length of everything
    before its third column, which is told from the lengths of the row and of the columns after it. -/
def legacySource (row third : Text) (fourth : Option Text) : Except Fault Text := do
  let beforeThird ← sub row.byteCount third.byteCount
  let behindThird ← match fourth with
    | some column => add column.byteCount 1
    | none => pure 0
  fromByte (← sub beforeThird behindThird) row

def lastColumns (rest : Text) : Text × Option Text :=
  match rest.cut? '|' with
  | some (third, fourth) => (third, some fourth)
  | none => (rest, none)

def readRow (row : Text) : Except Fault (Option Row) :=
  match row.cut? '|' with
  | none => return none
  | some (number, columns) =>
    match columns.cut? '|' with
    | none => return none
    | some (second, rest) =>
      let (third, fourth) := lastColumns rest
      let lineNumber := (Decimal.readNatural Decimal.word32 number.trim).toOption
      match Row.ofCounted? lineNumber second rest with
      | some counted => return some counted
      | none =>
        match Marker.ofColumn? second.trim with
        | none => return none
        | some marker => do
          let source ← legacySource row third fourth
          return some { lineNumber, instrumentation := .unknown, marker, source := source.trim }

def fillHeader (rows : List Row) (place : Nat) : Except Fault (List Row) := do
  let header ← entry rows place
  if isAssemblyHeader header then
    let next ← entry rows (← add place 1)
    return rows.set place (header.withOutcomeOf next)
  else return rows

def fillAssemblyHeaders (rows : List Row) : Except Fault (List Row) :=
  (List.range (rows.length - 1)).foldlM fillHeader rows

/-! ## Blocks -/

def countBraces (before : Braces) : Option Char → Text → Except Fault Braces
  | _, [] => .ok before
  | some quote, '\\' :: _ :: rest => countBraces before (some quote) rest
  | some quote, c :: rest => countBraces before (if c = quote then none else some quote) rest
  | none, c :: rest => do
    let opens ← add before.opens (Braces.ofChar c).opens
    let closes ← add before.closes (Braces.ofChar c).closes
    countBraces ⟨opens, closes⟩ (if isQuote c then some c else none) rest

def braces (code : Text) : Except Fault Braces := countBraces ⟨0, 0⟩ none code

def tally (t : Tallies) : Outcome → Except Fault Tallies
  | .uncounted => return t
  | .covered logical => do
    let covered ← add t.covered 1
    let logicalCovered ← add t.logicalCovered logical.toNat
    return { t with covered, logicalCovered }
  | .reverted _ => do
    let reverted ← add t.reverted 1
    let logicalCovered ← add t.logicalCovered 1
    return { t with reverted, logicalCovered }
  | .untouched logical _ => do
    let untouched ← add t.untouched 1
    let logicalUntouched ← add t.logicalUntouched logical.toNat
    return { t with untouched, logicalUntouched }

def skipRow (b : Block) : Except Fault Block := do
  let rowCount ← add b.rowCount 1
  return { b with rowCount }

def record (b : Block) (row : Row) (code : Text) : Except Fault Block := do
  let b ← skipRow b
  let tallies ← tally b.tallies (Outcome.of row code)
  return { b.add (Outcome.of row code) with tallies }

def counted (t : Tallies) : Except Fault Nat := do
  let ran ← add t.covered t.reverted
  add ran t.untouched

/-! ## Scanning -/

def depthChange (braces : Braces) : Except Fault Int :=
  signedSub (signed braces.opens) (signed braces.closes)

def settle (s : State) (block : Block) (depth : Int) : State :=
  if depth ≤ 0 then s.close block else { s with phase := .body block depth.toNat }

def stepOutside (s : State) (row : Row) (code : Text) : Except Fault State :=
  if row.isUnmarkedLegacy then return s
  else do
    let residue ← record s.residue row code
    return { s with residue }

def stepHeading (s : State) (block : Block) (row : Row) (code : Text) : Except Fault State := do
  let marked := { block with viewPure := block.viewPure || code.mentions viewPureWords }
  let block ← record marked row code
  let braces ← braces code
  if 0 < braces.opens then return settle s block (← depthChange braces)
  else if code.getLast? = some ';' then return { s with phase := .outside }
  else return { s with phase := .heading block }

def stepBody (s : State) (block : Block) (depth : Nat) (row : Row) (code : Text) :
    Except Fault State := do
  let block ← record block row code
  let braces ← braces code
  let depth ← signedAdd depth (← depthChange braces)
  return settle s block depth

def stepCode (s : State) (row : Row) (code : Text) : Except Fault State :=
  match s.phase.enter code with
  | .outside => stepOutside s row code
  | .heading block => stepHeading s block row code
  | .body block depth => stepBody s block depth row code

def stepBlank (s : State) : Except Fault State :=
  match s.phase with
  | .outside => return s
  | .heading block => do
    let block ← skipRow block
    return { s with phase := .heading block }
  | .body block depth => do
    let block ← skipRow block
    return { s with phase := .body block depth }

def step (s : State) (row : Row) : Except Fault State :=
  let line := CodeLine.of s.inComment row.source
  let s := { s with inComment := line.inComment }
  match line.code with
  | none => stepBlank s
  | some code => stepCode s row code

def run (s : State) (rows : List Row) : Except Fault State := rows.foldlM step s

def residue? (s : State) : Except Fault (Option Block) := do
  let lines ← counted s.residue.tallies
  return if lines = 0 then none else some s.residue.complete

/-! ## Reports -/

def fileBlocks (allFunctions : Bool) (lines : List Text) : Except Fault (List Block) := do
  let rows ← lines.mapM readRow
  let rows ← fillAssemblyHeaders (rows.filterMap id)
  let state ← run {} rows
  let residue ← residue? state
  return withoutViewPure allFunctions state.blocks ++ residue.toList

def report (o : Options) (s : Segment) : Except Fault FileReport := do
  let blocks ← fileBlocks o.allFunctions s.lines
  let coverage ← (Coverage.ofBlocks? o.mode blocks).mapError .overflow
  return { FileReport.ofBlocks o.mode s.path blocks with coverage }

def analyze (o : Options) (trace : Text) : Except Fault (List FileReport) := do
  let segments ← segments o trace
  segments.mapM (report o)

end FuzzCoverage.Checked

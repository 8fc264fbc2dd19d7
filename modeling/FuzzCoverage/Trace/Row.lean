import FuzzCoverage.Decimal.Natural
import FuzzCoverage.Text.Blank

/-! # Trace rows

A row of a trace says how one source line fared in the fuzzing campaign.  Two layouts exist:

* `line | hits | marker | source`, where an empty hit column means that the compiler put no
  counter on the line;
* `line | marker | source`, the legacy layout, which has no hit counts.

The source may hold `|` itself, so the layout is decided by the columns before it. -/

namespace FuzzCoverage.Trace

inductive Marker where
  /-- The line ran and no run reverted there. -/
  | covered
  /-- Some run that reached it reverted or failed. -/
  | reverted
  | unmarked
  deriving DecidableEq, Repr

def markerLetters : List Char := ['*', 'r', 'e', 'o']

/-- The letters that tell of a run which did not go through: one of them outweighs any number of
    stars. -/
def revertLetters : List Char := ['r', 'e', 'o']

def Marker.ofColumn? (column : Text) : Option Marker :=
  if column.isEmpty then some .unmarked
  else if !column.all markerLetters.contains then none
  else if column.any revertLetters.contains then some .reverted
  else some .covered

inductive Instrumentation where
  | hits (count : Nat)
  /-- The line has no counter, since it holds nothing that runs. -/
  | structural
  /-- The legacy layout does not tell. -/
  | unknown
  deriving DecidableEq, Repr

def Instrumentation.isActive : Instrumentation → Bool
  | .structural => false
  | _ => true

def Instrumentation.ofColumn? (column : Text) : Option Instrumentation :=
  if column.isEmpty then some .structural
  else (Decimal.readNatural Decimal.word64 column).toOption.map .hits

structure Row where
  lineNumber : Option Nat
  instrumentation : Instrumentation
  marker : Marker
  source : Text
  deriving DecidableEq, Repr

namespace Row

def ofCounted? (lineNumber : Option Nat) (second rest : Text) : Option Row := do
  let (third, source) ← rest.cut? '|'
  let instrumentation ← Instrumentation.ofColumn? second.trim
  let marker ← Marker.ofColumn? third.trim
  return { lineNumber, instrumentation, marker, source := source.trim }

def ofLegacy? (lineNumber : Option Nat) (second rest : Text) : Option Row := do
  let marker ← Marker.ofColumn? second.trim
  return { lineNumber, instrumentation := .unknown, marker, source := rest.trim }

/-- The layout with hit counts is tried first. -/
def parse? (row : Text) : Option Row := do
  let (number, columns) ← row.cut? '|'
  let (second, rest) ← columns.cut? '|'
  let lineNumber := (Decimal.readNatural Decimal.word32 number.trim).toOption
  ofCounted? lineNumber second rest <|> ofLegacy? lineNumber second rest

def isActive (row : Row) : Bool := row.instrumentation.isActive

def withOutcomeOf (row other : Row) : Row :=
  { row with instrumentation := other.instrumentation, marker := other.marker }

/-- Whether a row of the legacy layout has no mark.  Outside of every function such a row is no
    evidence that anything could have run there. -/
def isUnmarkedLegacy (row : Row) : Bool :=
  row.instrumentation = .unknown && row.marker = .unmarked

end Row

end FuzzCoverage.Trace

import FuzzCoverage.Scan.File

/-! # Headers of assembly blocks, filled in place

The rows stand in places and are written over from the first to the last but one, so that a place
can hold a row that was written before it is read. -/

namespace FuzzCoverage.Scan

open Trace

variable {n : Nat}

/-- Gives the row at a place the outcome that the next place holds by then, if it is the header of an
    assembly block. -/
def fillPlace (rows : Vector Row n) (place : Nat) (h : place + 1 < n) : Vector Row n :=
  if isAssemblyHeader rows[place] then rows.set place (rows[place].withOutcomeOf rows[place + 1])
  else rows

def fillFirst (rows : Vector Row n) (count : Nat) (h : count ≤ n - 1) : Vector Row n :=
  count.fold (fun place hplace filled => fillPlace filled place (by omega)) rows

def fillInPlace (rows : Vector Row n) : Vector Row n := fillFirst rows (n - 1) (Nat.le_refl _)

end FuzzCoverage.Scan

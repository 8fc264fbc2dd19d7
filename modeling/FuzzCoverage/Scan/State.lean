import FuzzCoverage.Block.Basic
import FuzzCoverage.Solidity.Brace
import FuzzCoverage.Solidity.Heading

/-! # Scanning the rows of a file

A scan reads the rows of one source file in order and divides them among blocks.  A row that holds
nothing but comment belongs to the block it stands in and counts for nothing.  Blocks are closed in
the order of the source and are not changed afterwards. -/

namespace FuzzCoverage.Scan

open Solidity Trace

inductive Phase where
  | outside
  /-- A signature has begun and its body has not. -/
  | heading (block : Block)
  /-- Within a body, with so many braces still open. -/
  | body (block : Block) (depth : Nat)
  deriving DecidableEq, Repr

def Phase.block? : Phase → Option Block
  | .outside => none
  | .heading block => some block
  | .body block _ => some block

structure State where
  phase : Phase := .outside
  inComment : Bool := false
  /-- What the rows outside of every block have added up to. -/
  residue : Block := Block.outside
  closed : List Block := []
  deriving DecidableEq, Repr

def viewPureWords : List Text := ["view", "pure"].map String.toList

/-- The phase once a row's code has been looked at for a heading.  One that begins outside of a body
    opens a block, and a heading that was still waiting for its body is given up. -/
def Phase.enter (phase : Phase) (code : Text) : Phase :=
  match phase with
  | .body block depth => .body block depth
  | phase =>
    match Heading.of? code with
    | some unit => .heading { kind := unit.kind, name := unit.name }
    | none => phase

namespace State

def close (s : State) (block : Block) : State :=
  { s with phase := .outside, closed := s.closed ++ [block.complete] }

/-- The body ends with the row on which none of its braces is left open. -/
def settle (s : State) (block : Block) (depth : Nat) (braces : Braces) : State :=
  if depth + braces.opens ≤ braces.closes then s.close block
  else { s with phase := .body block (depth + braces.opens - braces.closes) }

def stepOutside (s : State) (row : Row) (code : Text) : State :=
  if row.isUnmarkedLegacy then s else { s with residue := s.residue.record row code }

/-- A row of a heading.  The first opening brace begins the body, and without one a semicolon at the
    end of the row ends a declaration that has no body. -/
def stepHeading (s : State) (block : Block) (row : Row) (code : Text) : State :=
  let marked := { block with viewPure := block.viewPure || code.mentions viewPureWords }
  let block := marked.record row code
  let braces := Braces.of code
  if 0 < braces.opens then s.settle block 0 braces
  else if code.getLast? = some ';' then { s with phase := .outside }
  else { s with phase := .heading block }

def stepBody (s : State) (block : Block) (depth : Nat) (row : Row) (code : Text) : State :=
  s.settle (block.record row code) depth (Braces.of code)

def stepCode (s : State) (row : Row) (code : Text) : State :=
  match s.phase.enter code with
  | .outside => s.stepOutside row code
  | .heading block => s.stepHeading block row code
  | .body block depth => s.stepBody block depth row code

def stepBlank (s : State) : State :=
  match s.phase with
  | .outside => s
  | .heading block => { s with phase := .heading block.skipRow }
  | .body block depth => { s with phase := .body block.skipRow depth }

def step (s : State) (row : Row) : State :=
  let line := CodeLine.of s.inComment row.source
  let s := { s with inComment := line.inComment }
  match line.code with
  | none => s.stepBlank
  | some code => s.stepCode row code

def run (s : State) (rows : List Row) : State := rows.foldl step s

@[simp] theorem run_nil (s : State) : s.run [] = s := rfl

@[simp] theorem run_cons (s : State) (row : Row) (rows : List Row) :
    s.run (row :: rows) = (s.step row).run rows := rfl

theorem run_append (s : State) (first rest : List Row) :
    s.run (first ++ rest) = (s.run first).run rest := List.foldl_append

/-- The function blocks at the end of a scan.  A body that the trace cuts off is kept, a heading
    that it cuts off is not. -/
def blocks (s : State) : List Block :=
  match s.phase with
  | .body block _ => s.closed ++ [block.complete]
  | _ => s.closed

def residue? (s : State) : Option Block :=
  if s.residue.tallies.counted = 0 then none else some s.residue.complete

end State

end FuzzCoverage.Scan

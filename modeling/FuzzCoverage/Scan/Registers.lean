import FuzzCoverage.Scan.State

/-! # A scan in registers

The scan of `State`, by a machine that keeps the place where it stands, the block in progress and
the depth of open braces in registers of their own.  It has more states than a scan comes to, such
as a heading without a block, and a rule for each of them. -/

namespace FuzzCoverage.Scan

open Solidity Trace

inductive Place where
  | outside
  | heading
  | body
  deriving DecidableEq, Repr

structure Registers where
  place : Place := .outside
  current : Option Block := none
  /-- How many more braces were opened than closed since the body began. -/
  depth : Int := 0
  inComment : Bool := false
  residue : Block := Block.outside
  closed : List Block := []
  deriving DecidableEq, Repr

namespace Registers

def close (r : Registers) : Registers :=
  match r.current with
  | none => { r with place := .outside, depth := 0 }
  | some block =>
    { r with place := .outside, current := none, depth := 0, closed := r.closed ++ [block.complete] }

def settle (r : Registers) : Registers := if r.depth ≤ 0 then r.close else r

/-- Looks for a heading, outside of a body.  The block that it opens takes the place of one that is still
    waiting for its body. -/
def enter (r : Registers) (code : Text) : Registers :=
  if r.place = .body then r
  else
    match Heading.of? code with
    | none => r
    | some unit =>
      { r with place := .heading, current := some { kind := unit.kind, name := unit.name }, depth := 0 }

def stepOutside (r : Registers) (row : Row) (code : Text) : Registers :=
  if row.isUnmarkedLegacy then r else { r with residue := r.residue.record row code }

def readHeading (block : Block) (row : Row) (code : Text) : Block :=
  { block with viewPure := block.viewPure || code.mentions viewPureWords }.record row code

def stepHeading (r : Registers) (row : Row) (code : Text) : Registers :=
  match r.current with
  | none => { r with place := .outside }
  | some block =>
    let r := { r with current := some (readHeading block row code) }
    let braces := Braces.of code
    if 0 < braces.opens then
      { r with place := .body, depth := braces.opens - braces.closes }.settle
    else if code.getLast? = some ';' then { r with place := .outside, current := none }
    else r

def stepBody (r : Registers) (row : Row) (code : Text) : Registers :=
  let r := { r with current := r.current.map (Block.record · row code) }
  let braces := Braces.of code
  { r with depth := r.depth + (braces.opens - braces.closes) }.settle

def stepCode (r : Registers) (row : Row) (code : Text) : Registers :=
  let r := r.enter code
  match r.place with
  | .outside => r.stepOutside row code
  | .heading => r.stepHeading row code
  | .body => r.stepBody row code

def step (r : Registers) (row : Row) : Registers :=
  let line := CodeLine.of r.inComment row.source
  let r := { r with inComment := line.inComment }
  match line.code with
  | none => { r with current := r.current.map Block.skipRow }
  | some code => r.stepCode row code

def run (r : Registers) (rows : List Row) : Registers := rows.foldl step r

/-- Ends the scan: a body that the trace cuts off is closed, a heading is given up. -/
def finish (r : Registers) : Registers :=
  match r.place with
  | .outside => r
  | .heading => { r with current := none }
  | .body => r.close

@[simp] theorem run_nil (r : Registers) : r.run [] = r := rfl

@[simp] theorem run_cons (r : Registers) (row : Row) (rows : List Row) :
    r.run (row :: rows) = (r.step row).run rows := rfl

end Registers

@[simp] def Phase.place : Phase → Place
  | .outside => .outside
  | .heading _ => .heading
  | .body _ _ => .body

@[simp] def Phase.depth : Phase → Nat
  | .body _ depth => depth
  | _ => 0

def Registers.ofState (s : State) : Registers where
  place := s.phase.place
  current := s.phase.block?
  depth := s.phase.depth
  inComment := s.inComment
  residue := s.residue
  closed := s.closed

end FuzzCoverage.Scan

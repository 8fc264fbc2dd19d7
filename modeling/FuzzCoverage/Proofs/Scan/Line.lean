import FuzzCoverage.Scan.State

/-! # Rows with their code

A scan looks at the source of a row only through the code that is left of it, and comments run on
from row to row whatever the scan does.  So the two are taken apart here: `linesOf` strips the
comments of rows one after another, and `State.runLines` scans rows whose code is known
(`State.run_eq_runLines`).

What one line can do is said once, for each of the three places a scan may stand in:

* `stepLine_outside` — outside of every block the line adds to the residue, or to nothing;
* `stepLine_start`, `stepLine_heading` — a line that begins a unit, and one after it, are read as
  part of a heading;
* `stepLine_body` — a line of a body is recorded, and its braces settled. -/

namespace FuzzCoverage.Scan

open Solidity Trace

/-- A row and the code that its source holds besides comments. -/
structure Line where
  row : Row
  code : Option Text
  deriving DecidableEq, Repr

/-- The rows with their code, where the first one begins inside of a block comment or does not. -/
def linesOf : Bool → List Row → List Line
  | _, [] => []
  | inComment, row :: rows =>
    ⟨row, (CodeLine.of inComment row.source).code⟩
      :: linesOf (CodeLine.of inComment row.source).inComment rows

/-- Whether a block comment is open after the rows. -/
def commentAfter : Bool → List Row → Bool
  | inComment, [] => inComment
  | inComment, row :: rows => commentAfter (CodeLine.of inComment row.source).inComment rows

theorem linesOf_map_row (inComment : Bool) (rows : List Row) :
    (linesOf inComment rows).map Line.row = rows := by
  induction rows generalizing inComment with
  | nil => rfl
  | cons row rows ih => simp [linesOf, ih]

theorem length_linesOf (inComment : Bool) (rows : List Row) :
    (linesOf inComment rows).length = rows.length := by
  rw [← List.length_map Line.row, linesOf_map_row]

/-! ## What a line shows to the scan -/

namespace Line

def heading? (line : Line) : Option Heading := line.code.bind Heading.of?

def braces (line : Line) : Braces := (line.code.map Braces.of).getD ⟨0, 0⟩

def endsInSemicolon (line : Line) : Bool := line.code.any (·.getLast? = some ';')

/-- Whether the line holds a word that says that a function does not change the state. -/
def saysViewPure (line : Line) : Bool := line.code.any (·.mentions viewPureWords)

/-- How the line counts; a line without code does not. -/
def outcome (line : Line) : Outcome := (line.code.map (Outcome.of line.row)).getD .uncounted

/-- Whether the line is one of those that the residue of a file is made of, where it lies outside of
    every block: it has code, and it is no unmarked row of the legacy layout. -/
def isResidue (line : Line) : Bool := line.code.isSome && !line.row.isUnmarkedLegacy

end Line

end FuzzCoverage.Scan

namespace FuzzCoverage

open Scan

/-- The block that a unit begins with. -/
def Solidity.Heading.block (unit : Solidity.Heading) : Block :=
  { kind := unit.kind, name := unit.name }

namespace Block

/-- The unit that a block was opened for. -/
def unit (b : Block) : Solidity.Heading := ⟨b.kind, b.name⟩

/-- The block with one more line: it counts as the rule for rows says, and a line without code is
    only one row more. -/
def read (b : Block) (line : Line) : Block := (b.add line.outcome).skipRow

def readAll (b : Block) (lines : List Line) : Block := lines.foldl read b

/-- The block with what lines of its heading say about the state. -/
def mark (b : Block) (lines : List Line) : Block :=
  { b with viewPure := b.viewPure || lines.any Line.saysViewPure }

@[simp] theorem readAll_nil (b : Block) : b.readAll [] = b := rfl

@[simp] theorem readAll_cons (b : Block) (line : Line) (lines : List Line) :
    b.readAll (line :: lines) = (b.read line).readAll lines := rfl

theorem readAll_append (b : Block) (first rest : List Line) :
    b.readAll (first ++ rest) = (b.readAll first).readAll rest := List.foldl_append

theorem readAll_unit (b : Block) (lines : List Line) : (b.readAll lines).unit = b.unit := by
  induction lines generalizing b with
  | nil => rfl
  | cons line lines ih => exact ih (b.read line)

theorem mark_append (b : Block) (first rest : List Line) :
    b.mark (first ++ rest) = (b.mark first).mark rest := by
  simp [mark, Bool.or_assoc]

/-- What a heading says and how its lines count are kept apart. -/
theorem mark_readAll (b : Block) (heading lines : List Line) :
    (b.readAll lines).mark heading = (b.mark heading).readAll lines := by
  induction lines generalizing b with
  | nil => rfl
  | cons line lines ih => exact ih (b.read line)

theorem mark_read_mark (b : Block) (line : Line) (lines : List Line) :
    ((b.mark [line]).read line).mark lines = (b.mark (line :: lines)).read line :=
  congrArg (read · line) (mark_append b [line] lines).symm

theorem add_uncounted (b : Block) : b.add .uncounted = b := by
  simp [add, Tallies.add, Outcome.revertedSnippets, Outcome.untouchedSnippets]

theorem read_of_code_none {b : Block} {line : Line} (h : line.code = none) :
    b.read line = b.skipRow := by
  simp [read, Line.outcome, h, add_uncounted]

theorem read_of_code_some {b : Block} {line : Line} {code : Text} (h : line.code = some code) :
    b.read line = b.record line.row code := by
  simp [read, Line.outcome, h, record]

end Block

namespace Scan.State

open Solidity Trace

/-! ## A scan of lines -/

/-- Reads a row whose code is known. -/
def stepLine (s : State) (line : Line) : State :=
  match line.code with
  | none => s.stepBlank
  | some code => s.stepCode line.row code

def runLines (s : State) (lines : List Line) : State := lines.foldl stepLine s

@[simp] theorem runLines_nil (s : State) : s.runLines [] = s := rfl

@[simp] theorem runLines_cons (s : State) (line : Line) (lines : List Line) :
    s.runLines (line :: lines) = (s.stepLine line).runLines lines := rfl

theorem runLines_append (s : State) (first rest : List Line) :
    s.runLines (first ++ rest) = (s.runLines first).runLines rest := List.foldl_append

theorem stepLine_withComment (s : State) (inComment : Bool) (line : Line) :
    { s with inComment := inComment }.stepLine line =
      { s.stepLine line with inComment := inComment } := by
  obtain ⟨phase, _, residue, closed⟩ := s
  cases hcode : line.code with
  | none => cases phase <;> simp [stepLine, hcode, stepBlank]
  | some code =>
    simp only [stepLine, hcode, stepCode]
    cases phase.enter code with
    | outside => simp only [stepOutside]; split <;> rfl
    | heading block =>
      simp only [stepHeading, settle, close]
      split
      · split <;> rfl
      · split <;> rfl
    | body block depth => simp only [stepBody, settle, close]; split <;> rfl

theorem runLines_withComment (s : State) (inComment : Bool) (lines : List Line) :
    { s with inComment := inComment }.runLines lines =
      { s.runLines lines with inComment := inComment } := by
  induction lines generalizing s with
  | nil => rfl
  | cons line lines ih => rw [runLines_cons, runLines_cons, stepLine_withComment, ih]

/-- A scan of rows is a scan of their lines, with the comments followed beside it. -/
theorem run_eq_runLines (s : State) (rows : List Row) :
    s.run rows =
      { s.runLines (linesOf s.inComment rows) with inComment := commentAfter s.inComment rows } := by
  induction rows generalizing s with
  | nil => rfl
  | cons row rows ih =>
    have hstep : s.step row =
        { s.stepLine ⟨row, (CodeLine.of s.inComment row.source).code⟩ with
          inComment := (CodeLine.of s.inComment row.source).inComment } := by
      rw [← stepLine_withComment]
      rfl
    rw [run_cons, hstep, ih, runLines_withComment]
    rfl

/-! ## What one line can do -/

theorem settle_of_le {s : State} {block : Block} {depth : Nat} {braces : Braces}
    (h : depth + braces.opens ≤ braces.closes) : s.settle block depth braces = s.close block :=
  if_pos h

theorem settle_of_lt {s : State} {block : Block} {depth : Nat} {braces : Braces}
    (h : braces.closes < depth + braces.opens) :
    s.settle block depth braces =
      { s with phase := .body block (depth + braces.opens - braces.closes) } :=
  if_neg (Nat.not_le.2 h)

/-- A line of a heading: the first opening brace begins the body, and without one a semicolon at the
    end gives the heading up. -/
def declare (s : State) (block : Block) (line : Line) : State :=
  if 0 < line.braces.opens then s.settle ((block.mark [line]).read line) 0 line.braces
  else if line.endsInSemicolon then { s with phase := .outside }
  else { s with phase := .heading ((block.mark [line]).read line) }

theorem settle_withPhase (s : State) (phase : Phase) (block : Block) (depth : Nat)
    (braces : Braces) :
    { s with phase := phase }.settle block depth braces = s.settle block depth braces := by
  simp [settle, close]

theorem declare_withPhase (s : State) (phase : Phase) (block : Block) (line : Line) :
    { s with phase := phase }.declare block line = s.declare block line := by
  simp [declare, settle_withPhase]

theorem declare_of_code {s : State} {block : Block} {line : Line} {code : Text}
    (h : line.code = some code) : s.stepHeading block line.row code = s.declare block line := by
  simp [declare, stepHeading, Block.read_of_code_some h, Block.mark, Line.braces,
    Line.endsInSemicolon, Line.saysViewPure, h]

theorem stepLine_outside {s : State} {line : Line} (hs : s.phase = .outside)
    (h : line.heading? = none) :
    s.stepLine line =
      { s with residue := if line.isResidue then s.residue.read line else s.residue } := by
  obtain ⟨phase, inComment, residue, closed⟩ := s
  simp only at hs
  subst hs
  cases hcode : line.code with
  | none => simp [stepLine, stepBlank, hcode, Line.isResidue]
  | some code =>
    have hof : Heading.of? code = none := by simpa [Line.heading?, hcode] using h
    simp only [stepLine, hcode, stepCode, Phase.enter, hof, stepOutside, Line.isResidue,
      Block.read_of_code_some hcode]
    cases line.row.isUnmarkedLegacy <;> simp

/-- A line that begins a unit outside of a body opens its block, and a heading that was still
    waiting is given up. -/
theorem stepLine_start {s : State} {line : Line} {unit : Heading}
    (hs : ∀ block depth, s.phase ≠ .body block depth) (h : line.heading? = some unit) :
    s.stepLine line = s.declare unit.block line := by
  obtain ⟨code, hcode, hof⟩ := Option.bind_eq_some_iff.1 h
  rw [← declare_of_code hcode]
  cases hphase : s.phase with
  | outside => simp [stepLine, hcode, stepCode, hphase, Phase.enter, hof, Heading.block]
  | heading block => simp [stepLine, hcode, stepCode, hphase, Phase.enter, hof, Heading.block]
  | body block depth => exact absurd hphase (hs block depth)

theorem stepLine_heading {s : State} {block : Block} {line : Line} (hs : s.phase = .heading block)
    (h : line.heading? = none) : s.stepLine line = s.declare block line := by
  cases hcode : line.code with
  | none =>
    simp [stepLine, stepBlank, hcode, hs, declare, Block.read_of_code_none, Line.braces,
      Line.endsInSemicolon, Block.mark, Line.saysViewPure]
  | some code =>
    have hof : Heading.of? code = none := by simpa [Line.heading?, hcode] using h
    rw [← declare_of_code hcode]
    simp [stepLine, hcode, stepCode, hs, Phase.enter, hof]

theorem stepLine_body {s : State} {block : Block} {depth : Nat} {line : Line}
    (hs : s.phase = .body block depth) (hdepth : 0 < depth) :
    s.stepLine line = s.settle (block.read line) depth line.braces := by
  cases hcode : line.code with
  | none =>
    have hopen : ¬ depth ≤ 0 := by omega
    simp [stepLine, stepBlank, hcode, hs, settle, Line.braces, Block.read_of_code_none, hopen]
  | some code =>
    simp [stepLine, hcode, stepCode, hs, Phase.enter, stepBody, Line.braces,
      Block.read_of_code_some hcode]

end Scan.State

end FuzzCoverage

import FuzzCoverage.Decimal.Natural
import FuzzCoverage.Text.Blank
import FuzzCoverage.Text.Lines
import FuzzCoverage.Text.Quoted

/-! # Scope files

A scope file has a header line and then one line for each file in scope: its path, the numbers of
source lines, of all lines and of comment lines, with commas between them.  Blank lines are passed
over, blanks around a column do not count, and columns after the fourth are ignored. -/

namespace FuzzCoverage

structure ScopeEntry where
  path : Text
  source : Nat
  total : Nat
  comment : Nat
  deriving DecidableEq, Repr

inductive ScopeProblem where
  | columns (row : Text)
  | number (column : String) (value : Text) (fault : Decimal.NaturalFault)
  deriving DecidableEq, Repr

def ScopeProblem.message : ScopeProblem → String
  | .columns row => "expected 4 columns in " ++ String.ofList row.quoted
  | .number column value fault =>
    column ++ " " ++ String.ofList value.quoted ++ ": " ++ fault.message

/-- A problem and the number of the line that has it, counted from one over all lines. -/
structure ScopeFault where
  line : Nat
  problem : ScopeProblem
  deriving DecidableEq, Repr

namespace ScopeEntry

def readNumber (column : String) (value : Text) : Except ScopeProblem Nat :=
  (Decimal.readNatural Decimal.word64 value).mapError (.number column value)

def ofLine (row : Text) : Except ScopeProblem ScopeEntry :=
  match (row.splitOn ',').map Text.trim with
  | path :: source :: total :: comment :: _ => do
    let source ← readNumber "source" source
    let total ← readNumber "total" total
    let comment ← readNumber "comment" comment
    return { path, source, total, comment }
  | _ => .error (.columns row)

end ScopeEntry

def ScopeEntry.readLines (number : Nat) : List Text → Except ScopeFault (List ScopeEntry)
  | [] => .ok []
  | row :: rest =>
    if row.allBlank then ScopeEntry.readLines (number + 1) rest
    else do
      let entry ← (ScopeEntry.ofLine row).mapError (ScopeFault.mk number)
      let entries ← ScopeEntry.readLines (number + 1) rest
      return entry :: entries

/-- Reads a scope file.  Its first line is the header, whatever it holds. -/
def ScopeEntry.readAll (text : Text) : Except ScopeFault (List ScopeEntry) :=
  ScopeEntry.readLines 2 (text.lines.drop 1)

end FuzzCoverage

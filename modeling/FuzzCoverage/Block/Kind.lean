import FuzzCoverage.Text.Basic

/-! # Kinds of blocks -/

namespace FuzzCoverage

inductive BlockKind where
  | function
  | constructor
  | modifier
  | receive
  | fallback
  /-- The lines of a file that lie outside of every function. -/
  | contractLevel
  deriving DecidableEq, Repr

namespace BlockKind

/-- The name of a block whose kind has no names of its own. -/
def defaultName : BlockKind → Text
  | .function => "function".toList
  | .constructor => "constructor".toList
  | .modifier => "modifier".toList
  | .receive => "receive".toList
  | .fallback => "fallback".toList
  | .contractLevel => "<contract-level>".toList

def label : BlockKind → String
  | .function => "Function"
  | .constructor => "Constructor"
  | .modifier => "Modifier"
  | .receive => "Receive"
  | .fallback => "Fallback"
  | .contractLevel => "ContractLevel"

end BlockKind

end FuzzCoverage

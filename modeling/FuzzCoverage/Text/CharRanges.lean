/-! # Ranges of characters -/

namespace FuzzCoverage.Text

/-- A set of characters: the closed intervals of their code points, in rising order. -/
abbrev CharRanges := List (Nat × Nat)

def CharRanges.has (ranges : CharRanges) (c : Char) : Bool :=
  ranges.any fun (first, last) => first ≤ c.toNat && c.toNat ≤ last

end FuzzCoverage.Text

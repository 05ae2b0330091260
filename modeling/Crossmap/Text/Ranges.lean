/-!
# Ranges of characters

A class of characters is given by ranges, each with the numbers of its first and its last character.
-/

namespace Crossmap.Text

/-- Whether a character lies in one of some ranges. -/
def inRanges (ranges : List (Nat × Nat)) (c : Char) : Bool :=
  ranges.any fun r => r.1 ≤ c.toNat && c.toNat ≤ r.2

end Crossmap.Text

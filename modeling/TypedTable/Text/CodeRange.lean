/-!
# Sets of characters given by ranges

A property of characters is a list of ranges of code points, in ascending order.
-/

namespace TypedTable.Text

/-- Ranges of code points, each from its first to its last. -/
abbrev CodeRanges := List (Nat × Nat)

/-- Whether a character lies in one of the ranges. -/
def CodeRanges.contains (ranges : CodeRanges) (c : Char) : Bool :=
  ranges.any fun (first, last) => first ≤ c.toNat && c.toNat ≤ last

end TypedTable.Text

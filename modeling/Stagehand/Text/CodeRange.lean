/-!
# Tables of code points

A property of characters is given as a list of inclusive ranges of code points.
-/

namespace Stagehand.Text

/-- The character lies in one of the ranges. -/
def inRanges (ranges : List (Nat × Nat)) (c : Char) : Bool :=
  ranges.any fun (first, last) => first ≤ c.toNat && c.toNat ≤ last

end Stagehand.Text

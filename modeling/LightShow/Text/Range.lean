/-!
Sets of characters, given by the ranges of their codes.
-/

namespace LightShow.Text

def inRanges (ranges : List (Nat × Nat)) (c : Char) : Bool :=
  ranges.any fun r => r.1 ≤ c.toNat && c.toNat ≤ r.2

end LightShow.Text

/-!
# Ranges of code points

A class of characters is a list of closed ranges of code points.
-/

namespace Errata.Text

/-- A code point lies in one of the closed ranges. -/
def inRanges (rs : List (Nat × Nat)) (n : Nat) : Bool :=
  rs.any fun r => r.1 ≤ n && n ≤ r.2

end Errata.Text

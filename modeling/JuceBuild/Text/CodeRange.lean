/-!
# Ranges of code points

A character class of a standard is a table of inclusive ranges of code points in ascending order.
-/

namespace JuceBuild.Text

/-- Whether the code point of `c` lies in one of the inclusive `ranges`. -/
def inRanges (ranges : List (Nat × Nat)) (c : Char) : Bool :=
  ranges.any fun range => range.1 ≤ c.toNat && c.toNat ≤ range.2

end JuceBuild.Text

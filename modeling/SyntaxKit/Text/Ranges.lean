/-!
# Ranges of characters

A set of characters given by a table of inclusive ranges of code points.
-/

namespace SyntaxKit

namespace Text

/-- Whether the code point of a character is in one of some inclusive ranges. -/
def inRanges (ranges : List (Nat × Nat)) (c : Char) : Bool :=
  ranges.any fun r => r.1 ≤ c.toNat && c.toNat ≤ r.2

end Text

end SyntaxKit

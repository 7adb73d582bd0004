/-!
# Ranges of code points

Properties of characters come as lists of ranges, both ends included.
-/

namespace Songbook.Text

/-- Whether a code point lies in one of several ranges, both ends included. -/
def inRanges (ranges : List (Nat × Nat)) (code : Nat) : Bool :=
  ranges.any fun range => range.1 ≤ code && code ≤ range.2

end Songbook.Text

/-! Membership in a list of closed ranges of code points, the form in which the classes
of characters are kept. -/

namespace TableGate.Text

/-- One of the ranges holds the code point. -/
def inRanges (ranges : List (Nat × Nat)) (n : Nat) : Bool :=
  ranges.any fun range => range.1 ≤ n && n ≤ range.2

end TableGate.Text

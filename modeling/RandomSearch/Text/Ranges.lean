/-!
# Sets of characters as ranges

A table of a character property is a list of ranges of code points, both ends included.
-/

namespace RandomSearch.Text

def inRanges (ranges : List (Nat × Nat)) (code : Nat) : Bool :=
  ranges.any fun range => range.1 ≤ code && code ≤ range.2

end RandomSearch.Text

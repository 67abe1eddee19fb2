/-!
# Ranges of code points

A class of characters is given by the list of its maximal ranges, both ends included, in
increasing order.
-/

namespace TradeJournal.Text.Ranges

/-- Whether a code point lies in one of the ranges. -/
def contains (ranges : List (Nat × Nat)) (n : Nat) : Bool :=
  ranges.any fun range => range.1 ≤ n && n ≤ range.2

end TradeJournal.Text.Ranges

/-!
# Ranges of code points

Classes of characters are lists of ranges of code points.
-/

namespace SolrRequest.Text

/-- The code points from `first` to `last`. -/
structure CodeRange where
  first : Nat
  last : Nat

/-- The range holds the code point of a character. -/
def CodeRange.holds (range : CodeRange) (c : Char) : Bool :=
  range.first ≤ c.toNat && c.toNat ≤ range.last

/-- One of the ranges holds the code point of a character. -/
def oneHolds (ranges : List CodeRange) (c : Char) : Bool :=
  ranges.any fun range => range.holds c

end SolrRequest.Text

/-!
# Sets of characters

A set of characters is a list of closed intervals of code points.
-/

namespace DataContract
namespace Text

/-- A set of code points, given by closed intervals in increasing order. -/
abbrev CodeRanges := List (Nat × Nat)

/-- Whether a character's code point lies in one of the intervals. -/
def CodeRanges.contains
    (ranges : CodeRanges)
    (c : Char) : Bool :=
  ranges.any fun range => range.1 ≤ c.toNat && c.toNat ≤ range.2

end Text
end DataContract

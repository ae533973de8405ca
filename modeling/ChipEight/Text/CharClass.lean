/-! Sets of characters given by ranges of code points. -/

namespace ChipEight

/-- A set of characters, listed as closed ranges of code points in ascending order. -/
structure CharClass where
  /-- The first and the last code point of each range. -/
  ranges : List (Nat × Nat)

/-- A character belongs to the class when one of the ranges holds its code point. -/
def CharClass.contains (set : CharClass) (c : Char) : Bool :=
  set.ranges.any fun range => range.1 ≤ c.toNat && c.toNat ≤ range.2

end ChipEight

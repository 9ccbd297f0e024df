/-!
# Sets of code points as ranges

A character property is a list of closed ranges of code points in increasing order. A code point
is looked up by `inRanges`, which stops at the first range that lies wholly above it.
-/

namespace JsonMarkup.Unicode

/-- Closed ranges of code points: first and last member. -/
abbrev Ranges := List (Nat × Nat)

/-- Look a code point up in increasing ranges. -/
def inRanges : Ranges → Nat → Bool
  | [], _ => false
  | (lo, hi) :: rest, n => if n < lo then false else n ≤ hi || inRanges rest n

end JsonMarkup.Unicode

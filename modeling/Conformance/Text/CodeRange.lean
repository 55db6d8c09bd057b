/-!
# Sets of characters as ranges of code points

Character classes are kept as ascending lists of ranges of code points.

## Main Definitions

* `CodeRange.mem` — membership of a code point in an ascending list of ranges
-/

namespace Conformance.CodeRange

/-- Membership in an ascending list of ranges, both ends included.  The search stops at the first
range that lies wholly above the code point. -/
def mem (code : Nat) : List (Nat × Nat) → Bool
  | [] => false
  | (lo, hi) :: rest => if code < lo then false else code ≤ hi || mem code rest

end Conformance.CodeRange

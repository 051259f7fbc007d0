/-!
# Range tables

A Unicode property as the inclusive ranges of its code points, in increasing order. Looking a code
point up stops at the first range that lies beyond it, so a small code point costs little.

Main definitions:

* `RangeTable` — the ranges.
* `RangeTable.contains` — membership of a code point.
-/

namespace HeaderFacts.Unicode

/-- Inclusive ranges of code points, in increasing order. -/
abbrev RangeTable := List (Nat × Nat)

/-- Whether a code point lies in one of the ranges. -/
def RangeTable.contains (n : Nat) : RangeTable → Bool
  | [] => false
  | (lo, hi) :: rest => if n < lo then false else n ≤ hi || RangeTable.contains n rest

end HeaderFacts.Unicode

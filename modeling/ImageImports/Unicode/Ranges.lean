/-!
# Sets of characters as ranges

A property of characters is a sorted table of ranges of code points that do not touch.  Membership
halves the table until one range is left.
-/

namespace ImageImports.Unicode

/-- Sorted ranges of code points, both ends included. -/
abbrev Ranges := Array (Nat × Nat)

namespace Ranges

/-- Whether a code point lies in one of the ranges from index `low` to below `high`. -/
def containsBetween (ranges : Ranges) (code : Nat) : Nat → Nat → Nat → Bool
  | 0, _, _ => false
  | fuel + 1, low, high =>
    if high ≤ low then false
    else
      let middle := (low + high) / 2
      match ranges[middle]? with
      | none => false
      | some (first, last) =>
        if code < first then ranges.containsBetween code fuel low middle
        else if last < code then ranges.containsBetween code fuel (middle + 1) high
        else true

/-- Whether a code point lies in one of the ranges. -/
def contains (ranges : Ranges) (code : Nat) : Bool :=
  ranges.containsBetween code (ranges.size + 1) 0 ranges.size

end Ranges

end ImageImports.Unicode

/-!
# Sets of characters

A set of characters as the sorted, disjoint ranges of their code points.
-/
namespace Lockstep.Text

/-- Ranges of code points, first and last, in increasing order. -/
abbrev Ranges := Array (Nat × Nat)

/-- Halves the places from `low` to `high` in which the range of `n` can be, at most `steps` times. -/
def Ranges.search (ranges : Ranges) (n : Nat) : Nat → Nat → Nat → Bool
  | 0, _, _ => false
  | steps + 1, low, high =>
    if high ≤ low then false
    else
      let middle := (low + high) / 2
      match ranges[middle]? with
      | none => false
      | some (first, last) =>
        if n < first then ranges.search n steps low middle
        else if last < n then ranges.search n steps (middle + 1) high
        else true

/-- The character lies in one of the ranges. -/
def Ranges.contains (ranges : Ranges) (c : Char) : Bool :=
  ranges.search c.toNat ranges.size 0 ranges.size

end Lockstep.Text

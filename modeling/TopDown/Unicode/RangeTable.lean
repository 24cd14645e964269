namespace TopDown.Unicode

/--
Code points as ascending, disjoint ranges with both ends included, and as runs that take every
other code point from the first to the last one. All tables are those of version 15.0 of the
standard.
-/
structure RangeTable where
  ranges : List (Nat × Nat)
  alternating : List (Nat × Nat) := []
  deriving DecidableEq, Repr

namespace RangeTable

def find? : List (Nat × Nat) → Nat → Option (Nat × Nat)
  | [], _ => none
  | (low, high) :: rest, n =>
    if n < low then none else if n ≤ high then some (low, high) else find? rest n

def contains (table : RangeTable) (c : Char) : Bool :=
  (find? table.ranges c.toNat).isSome ||
    (find? table.alternating c.toNat).any fun run ↦ (c.toNat - run.1) % 2 == 0

end RangeTable

end TopDown.Unicode

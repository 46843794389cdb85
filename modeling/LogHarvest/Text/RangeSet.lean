/-!
# Sets of numbers given by ranges

A class of code points is a long ascending list of ranges. It is kept as a balanced search
tree, so that asking whether a code point belongs takes a handful of comparisons.
-/

namespace LogHarvest.Text

/-- A set of numbers as a search tree of inclusive ranges. -/
inductive RangeSet where
  | empty
  | node (left : RangeSet) (lo hi : Nat) (right : RangeSet)

namespace RangeSet

def contains : RangeSet → Nat → Bool
  | .empty, _ => false
  | .node left lo hi right, n =>
    if n < lo then left.contains n else if n ≤ hi then true else right.contains n

/-- The range that holds a number. -/
def rangeOf? : RangeSet → Nat → Option (Nat × Nat)
  | .empty, _ => none
  | .node left lo hi right, n =>
    if n < lo then left.rangeOf? n else if n ≤ hi then some (lo, hi) else right.rangeOf? n

/-- Takes a tree of at most the given depth off the front of an ascending list and returns it
with the ranges left over. -/
def build : Nat → List (Nat × Nat) → RangeSet × List (Nat × Nat)
  | 0, ranges => (.empty, ranges)
  | depth + 1, ranges =>
    match build depth ranges with
    | (left, []) => (left, [])
    | (left, (lo, hi) :: rest) =>
      let (right, rest) := build depth rest
      (.node left lo hi right, rest)

/-- The set of the numbers in some range of an ascending list. -/
def ofList (ranges : List (Nat × Nat)) : RangeSet :=
  (build (Nat.log2 ranges.length + 1) ranges).1

end RangeSet

end LogHarvest.Text

/-!
# Halving search

An element of a sorted list is looked for the way the standard slices look for one: a window of
`size` elements from `base` is halved until one element is left, the upper half kept unless the
element in the middle compares greater than what is looked for. How many halvings there are
depends on the length alone; the element left is the answer when it compares equal.
-/

namespace CodeGraph

def halve {α : Type} (cmp : α → Ordering) (xs : List α) (base size : Nat) : Nat :=
  if size ≤ 1 then base
  else
    let mid := base + size / 2
    halve cmp xs (if xs[mid]?.map cmp = some .gt then base else mid) (size - size / 2)
termination_by size

/-- The index of an element of a sorted list that `cmp` calls equal, when halving finds one. -/
def searchSorted {α : Type} (cmp : α → Ordering) (xs : List α) : Option Nat :=
  let i := halve cmp xs 0 xs.length
  if xs[i]?.map cmp = some .eq then some i else none

end CodeGraph

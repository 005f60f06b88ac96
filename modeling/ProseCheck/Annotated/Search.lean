/-
  This file searches sorted lists of offsets by halving.  On
  a list that is not sorted the search still ends, and where
  it ends is fixed by the order of its steps.

  Key definitions include:
    * `insertionPoint`
-/

------------------------------------------------------------
-- Search by Halving
------------------------------------------------------------

namespace ProseCheck

/-
  Search between the indexes `lo` and `hi` for the first
  entry above `x`.  Each step halves the interval, so as
  many steps as it is wide are enough.
-/
def halve
    (xs : List Int)
    (x : Int)
    (lo hi : Nat) : Nat → Nat
  | 0 => lo
  | steps + 1 =>
      if lo < hi then
        let mid := (lo + hi) / 2
        if x < xs.getD mid 0 then halve xs x lo mid steps
        else halve xs x (mid + 1) hi steps
      else
        lo

/- The number of entries of a sorted list that are at most `x`. -/
def insertionPoint
    (xs : List Int)
    (x : Int) : Nat :=
  halve xs x 0 xs.length xs.length

end ProseCheck

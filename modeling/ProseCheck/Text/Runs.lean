import ProseCheck.Text.Basic

/-
  This file looks code points up in tables of stretches and
  of runs.

  Key definitions include:
    * `inRanges`
    * `inRuns`
-/

------------------------------------------------------------
-- Tables
------------------------------------------------------------

namespace ProseCheck

/- Whether a number lies in one of the stretches. -/
def inRanges
    (ranges : List (Nat × Nat))
    (n : Nat) : Bool :=
  ranges.any (fun (a, b) => a ≤ n && n ≤ b)

/-
  Whether a number lies in one of the runs.  A run takes
  every number, or every second one, of its stretch.
-/
def inRuns
    (runs : List (Nat × Nat × Nat))
    (n : Nat) : Bool :=
  runs.any (fun (a, b, step) =>
    a ≤ n && n ≤ b && (n - a) % step == 0)

end ProseCheck

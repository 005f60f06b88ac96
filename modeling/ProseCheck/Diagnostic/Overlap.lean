import ProseCheck.Diagnostic.Basic

/-
  This file decides which diagnostics a selection touches.

  Key definitions include:
    * `Range.Overlaps`
    * `underSelection`
-/

------------------------------------------------------------
-- Overlap
------------------------------------------------------------

namespace ProseCheck

namespace Range

/-
  Whether two ranges share a position.  The ends belong to a
  range, so a caret right after a word touches the word.
-/
def Overlaps
    (q r : Range) : Prop :=
  q.start ≤ r.stop ∧ r.start ≤ q.stop

instance
    (q r : Range) :
    Decidable (q.Overlaps r) := by
  unfold Overlaps
  infer_instance

end Range

/- The diagnostics that a selection touches, in their order. -/
def underSelection
    (query : Range)
    (ds : List Diagnostic) : List Diagnostic :=
  ds.filter (fun d => query.Overlaps d.range)

end ProseCheck

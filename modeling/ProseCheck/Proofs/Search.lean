import Mathlib.Data.Int.Order.Basic
import Mathlib.Data.Nat.Basic
import Mathlib.Order.Lattice
import Mathlib.Tactic.Common
import ProseCheck.Annotated.Search

/-
  This file shows what the search by halving finds in a list
  that goes up: the number of entries that are at most the
  one that is searched for.

  Main declarations:
    * `le_iff_lt_countP`
    * `halve_bounds`
    * `insertionPoint_eq_countP`
-/

------------------------------------------------------------
-- Counting in Sorted Lists
------------------------------------------------------------

namespace ProseCheck

variable {α : Type} [LinearOrder α]

/-
  In a list that goes up, the entries that are at most `x`
  are the first ones.
-/
theorem le_iff_lt_countP
    {xs : List α}
    (hSorted : xs.Pairwise (· ≤ ·))
    {i : Nat}
    {entry : α}
    (hEntry : xs[i]? = some entry)
    (x : α) :
    entry ≤ x ↔ i < xs.countP (· ≤ x) := by
  induction xs generalizing i with
  | nil => simp at hEntry
  | cons a as ih =>
      rcases List.pairwise_cons.mp hSorted with
        ⟨hAbove, hRest⟩
      by_cases hHead : a ≤ x
      · rw [List.countP_cons_of_pos (by simpa using hHead)]
        cases i with
        | zero =>
            simp only [List.getElem?_cons_zero,
              Option.some.injEq] at hEntry
            subst hEntry
            simp [hHead]
        | succ i =>
            rw [List.getElem?_cons_succ] at hEntry
            rw [ih hRest hEntry]
            omega
      · have hLeast : a ≤ entry := by
          rcases List.mem_cons.mp
              (List.mem_of_getElem? hEntry) with
            hSame | hLater
          · exact le_of_eq hSame.symm
          · exact hAbove entry hLater
        have hNone : (a :: as).countP (· ≤ x) = 0 := by
          rw [List.countP_eq_zero]
          intro b hMem
          rcases List.mem_cons.mp hMem with hSame | hLater
          · simpa [hSame] using hHead
          · have hMore := hAbove b hLater
            simpa using lt_of_lt_of_le (lt_of_not_ge hHead) hMore
        have hBeyond : ¬ entry ≤ x :=
          fun hLe => hHead (le_trans hLeast hLe)
        rw [hNone]
        simp [hBeyond]

end ProseCheck

------------------------------------------------------------
-- Halving
------------------------------------------------------------

namespace ProseCheck

/-
  The search ends between its bounds, and what was known of
  the bounds is then known of the point where it ends: the
  entries before it are at most `x`, the others are not.
-/
theorem halve_bounds
    {xs : List Int}
    (hSorted : xs.Pairwise (· ≤ ·))
    {x : Int}
    {lo hi steps : Nat}
    (hOrder : lo ≤ hi)
    (hLength : hi ≤ xs.length)
    (hSteps : hi - lo ≤ steps)
    (hBelow : lo ≤ xs.countP (· ≤ x))
    (hAbove : xs.countP (· ≤ x) ≤ hi) :
    halve xs x lo hi steps = xs.countP (· ≤ x) := by
  induction steps generalizing lo hi with
  | zero =>
      unfold halve
      omega
  | succ steps ih =>
      unfold halve
      by_cases hMore : lo < hi
      · have hInside : (lo + hi) / 2 < xs.length := by omega
        have hEntry :
            xs[(lo + hi) / 2]? =
              some (xs.getD ((lo + hi) / 2) 0) := by
          simp [hInside]
        have hCount := le_iff_lt_countP hSorted hEntry x
        rw [if_pos hMore]
        dsimp only
        split
        · exact ih (by omega) (by omega) (by omega) hBelow
            (by omega)
        · exact ih (by omega) hLength (by omega) (by omega)
            hAbove
      · rw [if_neg hMore]
        omega

/- The search counts the entries that are at most `x`. -/
theorem insertionPoint_eq_countP
    {xs : List Int}
    (hSorted : xs.Pairwise (· ≤ ·))
    (x : Int) :
    insertionPoint xs x = xs.countP (· ≤ x) :=
  halve_bounds hSorted (Nat.zero_le _) (Nat.le_refl _)
    (Nat.sub_le _ _) (Nat.zero_le _) List.countP_le_length

end ProseCheck

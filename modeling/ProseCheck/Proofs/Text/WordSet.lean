import Mathlib.Data.List.Sort
import Mathlib.Data.String.Basic
import ProseCheck.Text.WordSet

/-
  This file describes sets of words as lists.  The words of a
  set are in the order of their code points, each of them
  once.  So two sets with the same words are the same list,
  however often and in whatever order these were given.

  Main declarations:
    * `codePoints`
    * `pairwise_wordSet`
    * `wordSet_eq_iff`
-/

------------------------------------------------------------
-- Code Points
------------------------------------------------------------

namespace ProseCheck

/- The numbers of the characters of a word. -/
def codePoints
    (w : String) : List Nat :=
  w.toList.map Char.toNat

/- Words are compared by the numbers of their characters. -/
theorem codePoints_lt
    {v w : String}
    (hLess : v < w) :
    codePoints v < codePoints w := by
  rw [String.lt_iff_toList_lt] at hLess
  apply List.map_lt _ hLess
  intro c d hChar
  exact hChar

end ProseCheck

------------------------------------------------------------
-- Sets in Order
------------------------------------------------------------

namespace ProseCheck

/- A word that is put in its place leaves a set in order. -/
theorem pairwise_insertWord
    (w : String)
    {ws : List String}
    (hSorted : ws.Pairwise (· < ·)) :
    (insertWord w ws).Pairwise (· < ·) := by
  induction ws with
  | nil => exact List.pairwise_singleton _ w
  | cons v vs ih =>
      rcases List.pairwise_cons.mp hSorted with
        ⟨hFirst, hRest⟩
      unfold insertWord
      split
      · rename_i hBefore
        refine List.pairwise_cons.mpr ⟨?_, hSorted⟩
        intro u hMem
        rcases List.mem_cons.mp hMem with rfl | hLater
        · exact hBefore
        · exact lt_trans hBefore (hFirst u hLater)
      split
      · exact hSorted
      · rename_i hNotBefore hOther
        have hBehind : v < w :=
          lt_of_le_of_ne (not_lt.mp hNotBefore)
            (Ne.symm hOther)
        refine List.pairwise_cons.mpr ⟨?_, ih hRest⟩
        intro u hMem
        rcases (mem_insertWord u w vs).mp hMem with
          rfl | hLater
        · exact hBehind
        · exact hFirst u hLater

/- The words of a set are in order, and none is there twice. -/
theorem pairwise_wordSet
    (ws : List String) :
    (wordSet ws).Pairwise (· < ·) := by
  induction ws with
  | nil => exact List.Pairwise.nil
  | cons w ws ih => exact pairwise_insertWord w ih

/- The order of a set is that of the code points. -/
theorem pairwise_codePoints_wordSet
    (ws : List String) :
    ((wordSet ws).map codePoints).Pairwise (· < ·) :=
  List.pairwise_map.mpr
    ((pairwise_wordSet ws).imp codePoints_lt)

/- Exactly the lists of the same words make the same set. -/
theorem wordSet_eq_iff
    {vs ws : List String} :
    wordSet vs = wordSet ws ↔ ∀ w, w ∈ vs ↔ w ∈ ws := by
  constructor
  · intro hSame w
    rw [← mem_wordSet w vs, hSame, mem_wordSet]
  · intro hMembers
    apply (pairwise_wordSet vs).eq_of_mem_iff
      (pairwise_wordSet ws)
    intro w
    rw [mem_wordSet, mem_wordSet, hMembers]

end ProseCheck

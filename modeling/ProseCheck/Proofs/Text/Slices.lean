import Mathlib.Tactic.Common
import ProseCheck.Text.Basic

/-
  This file describes slices of a text, and where a needle
  that is searched for in a slice is found.

  Main declarations:
    * `Text.length_slice`
    * `Text.take_slice`
    * `Text.slice_append_slice`
    * `Text.slice_eq_cons`
    * `Text.slice_append`
    * `Text.findIn?_bounds`
    * `Text.StandsAt`
    * `Text.standsAt_of_findIn?`
-/

------------------------------------------------------------
-- Slices
------------------------------------------------------------

namespace ProseCheck

namespace Text

/- A slice is as long as the part of it that is in the text. -/
@[simp]
theorem length_slice
    (t : Text)
    (start stop : Nat) :
    (t.slice start stop).length =
      min stop t.length - start := by
  simp [slice]

/- A character of a slice is one of the text. -/
theorem getElem?_slice
    {t : Text}
    {start stop i : Nat}
    (hInside : start + i < stop) :
    (t.slice start stop)[i]? = t[start + i]? := by
  rw [slice, List.getElem?_drop,
    List.getElem?_take_of_lt hInside]

/- The start of a slice is a shorter slice. -/
theorem take_slice
    (t : Text)
    {start middle stop : Nat}
    (hStop : middle ≤ stop) :
    (t.slice start stop).take (middle - start) =
      t.slice start middle := by
  rw [slice, slice, List.take_drop, List.take_take]
  by_cases hStart : start ≤ middle
  · congr 2
    omega
  · rw [List.drop_eq_nil_of_le (by simp; omega),
      List.drop_eq_nil_of_le (by simp; omega)]

/- Two slices of which one goes on from the other are one. -/
theorem slice_append_slice
    (t : Text)
    {start middle stop : Nat}
    (hFrom : start ≤ middle)
    (hTo : middle ≤ stop) :
    t.slice start middle ++ t.slice middle stop =
      t.slice start stop := by
  have hRest :
      t.slice middle stop =
        (t.slice start stop).drop (middle - start) := by
    rw [slice, slice, List.drop_drop,
      Nat.add_sub_of_le hFrom]
  rw [hRest, ← take_slice t hTo, List.take_append_drop]

/- A slice begins with a character and goes on behind it. -/
theorem slice_eq_cons
    {t : Text}
    {start stop : Nat}
    {c : Char}
    {cs : Text}
    (hSlice : t.slice start stop = c :: cs) :
    start < stop ∧ t[start]? = some c ∧
      t.slice (start + 1) stop = cs := by
  have hLength := congrArg List.length hSlice
  rw [length_slice, List.length_cons] at hLength
  refine ⟨by omega, ?_, ?_⟩
  · have hHead := congrArg (fun s => s[0]?) hSlice
    rw [getElem?_slice (by omega), Nat.add_zero] at hHead
    simpa using hHead
  · have hTail := congrArg List.tail hSlice
    rw [slice, List.tail_drop] at hTail
    exact hTail

/- The text between two others is a slice of the whole. -/
theorem slice_append
    (before middle after : Text) :
    slice (before ++ (middle ++ after)) before.length
        (before.length + middle.length) = middle := by
  rw [slice, List.take_length_add_append, List.drop_left,
    List.take_left]

end Text

end ProseCheck

------------------------------------------------------------
-- Search
------------------------------------------------------------

namespace ProseCheck

namespace Text

/- An occurrence of a needle ends inside of the text. -/
theorem find?_bounds
    {needle t : Text}
    {i : Nat}
    (hFound : find? needle t = some i) :
    i + needle.length ≤ t.length := by
  induction t generalizing i with
  | nil =>
      unfold find? at hFound
      split at hFound
      · rename_i hEmpty
        rw [List.isEmpty_iff.mp hEmpty]
        cases hFound
        simp
      · cases hFound
  | cons c cs ih =>
      unfold find? at hFound
      split at hFound
      · rename_i hPrefix
        have hLength :=
          (List.isPrefixOf_iff_prefix.mp hPrefix).length_le
        cases hFound
        omega
      · rcases Option.map_eq_some_iff.mp hFound with
          ⟨j, hRest, rfl⟩
        have hLength := ih hRest
        simp only [List.length_cons]
        omega

/-
  A needle that is found between two offsets begins and ends
  between them, and ends inside of the text.
-/
theorem findIn?_bounds
    {t needle : Text}
    {start stop i : Nat}
    (hNeedle : needle ≠ [])
    (hFound : t.findIn? needle start stop = some i) :
    start ≤ i ∧ i + needle.length ≤ stop ∧
      i + needle.length ≤ t.length := by
  rcases Option.map_eq_some_iff.mp hFound with
    ⟨j, hSlice, rfl⟩
  have hLength := find?_bounds hSlice
  have hPositive := List.length_pos_iff.mpr hNeedle
  rw [length_slice] at hLength
  omega

end Text

end ProseCheck

------------------------------------------------------------
-- Occurrences
------------------------------------------------------------

namespace ProseCheck

namespace Text

/- A needle stands in a text from an offset on. -/
def StandsAt
    (t needle : Text)
    (offset : Nat) : Prop :=
  needle <+: t.drop offset

variable
  {t needle : Text}
  {offset : Nat}

/- The characters of a needle are those of the text. -/
theorem StandsAt.getElem?
    (hStands : t.StandsAt needle offset)
    {k : Nat}
    (hInside : k < needle.length) :
    t[offset + k]? = needle[k]? := by
  rcases hStands with ⟨rest, hRest⟩
  rw [← List.getElem?_drop, ← hRest,
    List.getElem?_append_left hInside]

/- What stands in a text goes on behind its first character. -/
theorem StandsAt.tail
    {c : Char}
    (hStands : t.StandsAt (c :: needle) offset) :
    t.StandsAt needle (offset + 1) := by
  rcases hStands with ⟨rest, hRest⟩
  refine ⟨rest, ?_⟩
  rw [← List.tail_drop, ← hRest]
  rfl

/- A slice stands where it begins. -/
theorem standsAt_slice
    (t : Text)
    (start stop : Nat) :
    t.StandsAt (t.slice start stop) start := by
  rw [StandsAt, slice, List.drop_take]
  exact List.take_prefix _ _

/- A needle that is found stands there. -/
theorem standsAt_of_find?
    {i : Nat}
    (hFound : find? needle t = some i) :
    t.StandsAt needle i := by
  induction t generalizing i with
  | nil =>
      unfold find? at hFound
      split at hFound
      · rename_i hEmpty
        rw [List.isEmpty_iff.mp hEmpty]
        exact List.nil_prefix
      · cases hFound
  | cons c cs ih =>
      unfold find? at hFound
      split at hFound
      · rename_i hPrefix
        cases hFound
        exact List.isPrefixOf_iff_prefix.mp hPrefix
      · rcases Option.map_eq_some_iff.mp hFound with
          ⟨j, hRest, rfl⟩
        exact ih hRest

/- A needle that is found between two offsets stands there. -/
theorem standsAt_of_findIn?
    {start stop i : Nat}
    (hFound : t.findIn? needle start stop = some i) :
    t.StandsAt needle i := by
  rcases Option.map_eq_some_iff.mp hFound with
    ⟨j, hSlice, rfl⟩
  have hStands := standsAt_of_find? hSlice
  rw [StandsAt, slice, List.drop_drop, List.drop_take]
    at hStands
  rw [StandsAt, Nat.add_comm j start]
  exact hStands.trans (List.take_prefix _ _)

end Text

end ProseCheck

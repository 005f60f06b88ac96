import Mathlib.Tactic.Common
import ProseCheck.Text.Encoding

/-
  This file relates the two ways of counting code units: all
  of them at once, and character by character until there is
  no room left.

  Main declarations:
    * `Encoding.units_append`
    * `Encoding.units_take_lt`
    * `Encoding.le_fit_iff`
    * `Encoding.fit_units_take`
-/

------------------------------------------------------------
-- Counting at Once
------------------------------------------------------------

namespace ProseCheck

namespace Encoding

/- No characters take no code units. -/
@[simp]
theorem units_nil
    (e : Encoding) :
    e.units [] = 0 := rfl

/- The code units of two texts add up. -/
theorem units_append
    (e : Encoding)
    (s t : Text) :
    e.units (s ++ t) = e.units s + e.units t := by
  simp [units]

/- A start of a text takes no more code units than all of it. -/
theorem units_take_le
    (e : Encoding)
    (t : Text)
    (k : Nat) :
    e.units (t.take k) ≤ e.units t := by
  have hSplit := units_append e (t.take k) (t.drop k)
  rw [List.take_append_drop] at hSplit
  omega

/- A longer start of a text takes more code units. -/
theorem units_take_lt
    (e : Encoding)
    {t : Text}
    {j k : Nat}
    (hLess : j < k)
    (hLength : k ≤ t.length) :
    e.units (t.take j) < e.units (t.take k) := by
  induction t generalizing j k with
  | nil =>
      simp only [List.length_nil] at hLength
      omega
  | cons c cs ih =>
      cases k with
      | zero => omega
      | succ k =>
          have hWidth := width_pos e c
          cases j with
          | zero =>
              rw [List.take_zero, List.take_succ_cons,
                units_cons, units_nil]
              omega
          | succ j =>
              simp only [List.length_cons] at hLength
              have hRest :=
                ih (j := j) (k := k) (by omega) (by omega)
              rw [List.take_succ_cons, List.take_succ_cons,
                units_cons, units_cons]
              omega

/- Starts of a text are ordered by length as by code units. -/
theorem units_take_le_iff
    (e : Encoding)
    {t : Text}
    {j k : Nat}
    (hFirst : j ≤ t.length)
    (hSecond : k ≤ t.length) :
    e.units (t.take j) ≤ e.units (t.take k) ↔ j ≤ k := by
  constructor
  · intro hUnits
    by_contra hMore
    have hLess := units_take_lt e (t := t)
      (j := k) (k := j) (by omega) hFirst
    omega
  · intro hLe
    rcases Nat.lt_or_eq_of_le hLe with hLess | hSame
    · exact Nat.le_of_lt (units_take_lt e hLess hSecond)
    · exact Nat.le_of_eq (by rw [hSame])

end Encoding

end ProseCheck

------------------------------------------------------------
-- Counting by Character
------------------------------------------------------------

namespace ProseCheck

namespace Encoding

/- No more characters fit than there are. -/
theorem fit_le_length
    (e : Encoding)
    (room : Nat)
    (t : Text) :
    e.fit room t ≤ t.length := by
  induction t generalizing room with
  | nil => simp [fit]
  | cons c cs ih =>
      have hRest := ih (room - e.width c)
      rw [fit, List.length_cons]
      split <;> omega

/-
  The first characters of a text fit exactly where there is
  room for all of their code units.
-/
theorem le_fit_iff
    (e : Encoding)
    {t : Text}
    {k : Nat}
    (room : Nat)
    (hLength : k ≤ t.length) :
    k ≤ e.fit room t ↔ e.units (t.take k) ≤ room := by
  induction t generalizing k room with
  | nil =>
      have hZero : k = 0 := by simpa using hLength
      simp [hZero]
  | cons c cs ih =>
      cases k with
      | zero => simp
      | succ k =>
          simp only [List.length_cons] at hLength
          have hRest :=
            ih (k := k) (room - e.width c) (by omega)
          rw [List.take_succ_cons, units_cons, fit]
          by_cases hNarrow : room < e.width c
          · rw [if_pos hNarrow]
            omega
          · rw [if_neg hNarrow]
            omega

/- As many characters fit as the room was measured for. -/
theorem fit_units_take
    (e : Encoding)
    {t : Text}
    {k : Nat}
    (hLength : k ≤ t.length) :
    e.fit (e.units (t.take k)) t = k := by
  apply Nat.le_antisymm
  · have hFit := fit_le_length e (e.units (t.take k)) t
    rw [← units_take_le_iff e hFit hLength]
    exact (le_fit_iff e _ hFit).mp (Nat.le_refl _)
  · exact (le_fit_iff e _ hLength).mpr (Nat.le_refl _)

end Encoding

end ProseCheck

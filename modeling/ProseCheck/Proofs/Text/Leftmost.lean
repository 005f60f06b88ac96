import ProseCheck.Proofs.Text.Slices

/-
  This file says what a search in a text finds: the leftmost
  of all offsets at which the needle stands.

  A search begins at an offset and ends at a limit.  What it
  looks through are the characters that remain in between,
  and what it finds depends on these alone.

  Main declarations:
    * `Text.find?_eq_some_iff`
    * `Text.find?_eq_none_iff`
    * `Text.find?_char`
    * `Text.Remains`
    * `Text.Remains.findIn?_eq`
-/

------------------------------------------------------------
-- Leftmost Occurrences
------------------------------------------------------------

namespace ProseCheck

namespace Text

/- What stands at the front of a text is a prefix of it. -/
theorem standsAt_zero_iff
    {t needle : Text} :
    t.StandsAt needle 0 ↔ needle <+: t :=
  Iff.rfl

/- A needle is found where it stands, but not before. -/
theorem find?_eq_some_iff
    {needle t : Text}
    {i : Nat} :
    find? needle t = some i ↔
      t.StandsAt needle i ∧
        ∀ j < i, ¬ t.StandsAt needle j := by
  induction t generalizing i with
  | nil =>
      have hNone :
          ∀ j, StandsAt [] needle j ↔ needle = [] := by
        intro j
        rw [StandsAt, List.drop_nil, List.prefix_nil]
      simp only [find?, List.isEmpty_iff, hNone]
      by_cases hEmpty : needle = []
      · simp only [hEmpty, if_true, true_and,
          not_true_eq_false, imp_false]
        constructor
        · intro hSame j hBefore
          cases hSame
          exact absurd hBefore (Nat.not_lt_zero j)
        · intro hFirst
          cases i with
          | zero => rfl
          | succ i => exact absurd i.succ_pos (hFirst 0)
      · simp [hEmpty]
  | cons c cs ih =>
      rw [find?]
      by_cases hHere : needle <+: c :: cs
      · rw [if_pos (List.isPrefixOf_iff_prefix.mpr hHere)]
        constructor
        · intro hSame
          cases hSame
          exact ⟨hHere, fun j hBefore =>
            absurd hBefore (Nat.not_lt_zero j)⟩
        · rintro ⟨_, hFirst⟩
          cases i with
          | zero => rfl
          | succ i => exact absurd hHere (hFirst 0 i.succ_pos)
      · rw [if_neg (fun hPrefix => hHere
          (List.isPrefixOf_iff_prefix.mp hPrefix)),
          Option.map_eq_some_iff]
        constructor
        · rintro ⟨k, hRest, rfl⟩
          rcases ih.mp hRest with ⟨hStands, hFirst⟩
          refine ⟨hStands, ?_⟩
          intro j hBefore
          cases j with
          | zero => exact hHere
          | succ j => exact hFirst j (by omega)
        · rintro ⟨hStands, hFirst⟩
          cases i with
          | zero => exact absurd hStands hHere
          | succ k =>
              refine ⟨k, ih.mpr ⟨hStands, ?_⟩, rfl⟩
              intro j hBefore
              exact hFirst (j + 1) (by omega)

/- A needle is not found where it stands nowhere. -/
theorem find?_eq_none_iff
    {needle t : Text} :
    find? needle t = none ↔ ∀ i, ¬ t.StandsAt needle i := by
  constructor
  · intro hNone i
    -- the leftmost occurrence would have been found
    induction i using Nat.strongRecOn with
    | ind i ih =>
        intro hStands
        have hFound :=
          find?_eq_some_iff.mpr ⟨hStands, ih⟩
        rw [hNone] at hFound
        cases hFound
  · intro hNone
    cases hFound : find? needle t with
    | none => rfl
    | some i =>
        exact absurd (standsAt_of_find? hFound) (hNone i)

/- A needle that stands somewhere is found. -/
theorem exists_find?
    {needle t : Text}
    {i : Nat}
    (hStands : t.StandsAt needle i) :
    ∃ j, find? needle t = some j := by
  cases hFound : find? needle t with
  | none =>
      exact absurd hStands (find?_eq_none_iff.mp hFound i)
  | some j => exact ⟨j, rfl⟩

/- What a text begins with is found at its front. -/
theorem find?_append
    (needle rest : Text) :
    find? needle (needle ++ rest) = some 0 :=
  find?_eq_some_iff.mpr
    ⟨List.prefix_append needle rest, fun j hBefore =>
      absurd hBefore (Nat.not_lt_zero j)⟩

/- A needle of other characters is found behind the first. -/
theorem find?_cons_append
    {c : Char}
    {needle : Text}
    (hNeedle : needle ≠ [])
    (hOther : c ∉ needle)
    (rest : Text) :
    find? needle (c :: (needle ++ rest)) = some 1 := by
  refine find?_eq_some_iff.mpr
    ⟨List.prefix_append needle rest, ?_⟩
  intro j hBefore
  obtain rfl : j = 0 := Nat.lt_one_iff.mp hBefore
  rw [standsAt_zero_iff]
  intro hPrefix
  cases needle with
  | nil => exact hNeedle rfl
  | cons d ds =>
      rw [List.cons_prefix_cons] at hPrefix
      exact hOther (by simp [hPrefix.1])

/- A needle is not found in a shorter text. -/
theorem find?_of_length_lt
    {needle t : Text}
    (hShort : t.length < needle.length) :
    find? needle t = none := by
  rw [find?_eq_none_iff]
  intro i hStands
  have hLength := hStands.length_le
  rw [List.length_drop] at hLength
  omega

/- A character is found at the end of the others before it. -/
theorem find?_char
    {c : Char}
    {t : Text}
    (hMem : c ∈ t) :
    find? [c] t = some (t.takeWhile (· != c)).length := by
  induction t with
  | nil => cases hMem
  | cons d ds ih =>
      rw [find?]
      by_cases hHere : d = c
      · simp [hHere]
      · have hLater : c ∈ ds :=
          (List.mem_cons.mp hMem).resolve_left
            (fun hSame => hHere hSame.symm)
        rw [ih hLater]
        simp [hHere, Ne.symm hHere]

/- A character that is not in a text is not found in it. -/
theorem find?_char_of_not_mem
    {c : Char}
    {t : Text}
    (hNone : c ∉ t) :
    find? [c] t = none := by
  rw [find?_eq_none_iff]
  intro i hStands
  exact hNone (List.drop_subset i t
    (hStands.subset (List.mem_singleton_self c)))

end Text

end ProseCheck

------------------------------------------------------------
-- Remaining Characters
------------------------------------------------------------

namespace ProseCheck

namespace Text

/-
  From an offset up to a limit, these are the characters of
  the text that remain.
-/
structure Remains
    (t rest : Text)
    (offset limit : Nat) : Prop where
  slice_eq : t.slice offset limit = rest
  length_eq : offset + rest.length = limit

/- Behind the first part of a text the second one remains. -/
theorem remains_append
    (first second : Text) :
    Remains (first ++ second) second first.length
      (first ++ second).length := by
  refine ⟨?_, (List.length_append).symm⟩
  rw [slice, List.take_length, List.drop_left]

variable
  {t first rest needle : Text}
  {c : Char}
  {offset limit : Nat}

namespace Remains

/- Behind a part of what remains, the other part remains. -/
theorem behind
    (hRemains : t.Remains (first ++ rest) offset limit) :
    t.Remains rest (offset + first.length) limit := by
  refine ⟨?_, ?_⟩
  · rw [slice, ← List.drop_drop, ← slice, hRemains.slice_eq,
      List.drop_left]
  · have hLength := hRemains.length_eq
    rw [List.length_append] at hLength
    omega

/- So it is behind the first character that remains. -/
theorem tail
    (hRemains : t.Remains (c :: rest) offset limit) :
    t.Remains rest (offset + 1) limit := by
  have hFront : t.Remains ([c] ++ rest) offset limit :=
    hRemains
  exact hFront.behind

/- The first character that remains is one of the text. -/
theorem getElem?_eq
    (hRemains : t.Remains (c :: rest) offset limit) :
    t[offset]? = some c :=
  (slice_eq_cons hRemains.slice_eq).2.1

/- A search goes through the characters that remain. -/
theorem findIn?_eq
    (hRemains : t.Remains rest offset limit)
    (needle : Text) :
    t.findIn? needle offset limit =
      (find? needle rest).map (· + offset) := by
  rw [findIn?, hRemains.slice_eq]

/- What remains in front is found where the search begins. -/
theorem findIn?_append
    (hRemains : t.Remains (needle ++ rest) offset limit) :
    t.findIn? needle offset limit = some offset := by
  rw [hRemains.findIn?_eq, find?_append, Option.map_some,
    Nat.zero_add]

/- All that remains is found there as well. -/
theorem findIn?_self
    (hRemains : t.Remains needle offset limit) :
    t.findIn? needle offset limit = some offset := by
  rw [← List.append_nil needle] at hRemains
  exact hRemains.findIn?_append

end Remains

end Text

end ProseCheck

import ProseCheck.Proofs.Annotated.Order

/-
  This file says when a plain offset comes back from the
  source.  The start of a plain character is taken back to
  the character if its segment stands for itself, and to the
  first character of its segment otherwise.  So all offsets
  come back exactly where each segment stands for itself or
  has at most one character.

  Main declarations:
    * `AnnotatedText.Yields.plainOffset_originalStart`
    * `AnnotatedText.plainOffset_last_stop`
    * `AnnotatedText.Sharp`
    * `AnnotatedText.comesBack_iff_sharp`
-/

------------------------------------------------------------
-- Starts of Characters
------------------------------------------------------------

namespace ProseCheck

namespace AnnotatedText

variable
  {a : AnnotatedText}
  {length : Nat}

/- Where characters have room, each segment has some. -/
theorem Fits.grounded
    (hFits : a.Fits) :
    a.Grounded := by
  intro s hMem hTextual
  have hPositive := (Segment.isTextual_iff s).mp hTextual
  unfold Segment.contribution at hPositive
  split at hPositive
  · rename_i hKind
    have hFit := hFits s hMem hKind
    unfold Segment.span at hFit
    omega
  · simp at hPositive

/-
  The start of a plain character is taken back to it, or to
  the first of the characters that share its source.
-/
theorem Yields.plainOffset_originalStart
    (hCovers : a.Covers length)
    (hGrounded : a.Grounded)
    {offset start : Nat}
    {s : Segment}
    (hYields : a.Yields offset start s) :
    a.plainOffset (s.originalStart (offset - start)) =
      .ok (if s.isIdentity then offset else start) := by
  have hKind := hYields.kind_eq
  have hInside := hYields.bounds
  have hSpans := hYields.spans_start hGrounded
  rcases hYields with ⟨before, after, hCut, hStart, _, _⟩
  rw [plainOffset_of_cut hCovers hCut hSpans.1 hSpans.2,
    ← hStart]
  unfold Segment.Spans at hSpans
  simp only [plainWithin, hKind]
  congr 1
  split
  · rename_i hIdentity
    rw [Segment.originalStart, if_pos hIdentity]
    omega
  · rw [if_pos (by unfold Segment.span; omega)]
    omega

end AnnotatedText

end ProseCheck

------------------------------------------------------------
-- The End of the Text
------------------------------------------------------------

namespace ProseCheck

namespace AnnotatedText

variable
  {a : AnnotatedText}
  {length : Nat}

/-
  Where segments begin that add nothing and go on to the end
  of the source, the plain text has ended.
-/
theorem plainOffset_of_tail
    (hCovers : a.Covers length)
    {ss ts : List Segment}
    (hSplit : a.segments = ss ++ ts)
    (hEmpty : plainLength ts = 0)
    {place : Nat}
    (hChain : Segment.Chain place length ts) :
    a.plainOffset place = .ok a.plainText.length := by
  rcases Int.lt_or_eq_of_le hChain.le with hInside | hEnd
  · rcases hChain.exists_cut (Int.le_refl _) hInside with
      ⟨before, s, after, hCut, hFrom, hTo⟩
    have hSegments :
        a.segments = (ss ++ before) ++ s :: after := by
      rw [hSplit, hCut, List.append_assoc]
    have hBounds :=
      plainWithin_bounds (plainLength (ss ++ before)) hFrom
    have hLength := a.length_plainText
    rw [hSegments, plainLength_append, plainLength_cons]
      at hLength
    rw [hCut, plainLength_append, plainLength_cons] at hEmpty
    rw [plainOffset_of_cut hCovers hSegments hFrom hTo]
    congr 1
    omega
  · rw [hEnd]
    exact plainOffset_length hCovers

/-
  The end of the plain text is taken to the end of the last
  segment that adds something, and back from there.
-/
theorem plainOffset_last_stop
    (hCovers : a.Covers length) :
    ∃ place : Nat,
      a.originalOffset a.plainText.length =
          .ok (place : Int) ∧
        a.plainOffset place = .ok a.plainText.length := by
  rcases originalOffset_bounds hCovers (Nat.le_refl _) false
    with ⟨place, hPlace, _⟩
  refine ⟨place, hPlace, ?_⟩
  cases hLength : a.plainText.length with
  | zero =>
      rw [hLength, Int.natCast_zero,
        originalOffset_of_empty hLength] at hPlace
      have hZero := Except.ok.inj hPlace
      have hChain := hCovers.2
      rw [hZero] at hChain
      rw [← hLength]
      exact plainOffset_of_tail hCovers
        (List.nil_append _).symm hLength hChain
  | succ previous =>
      rcases a.exists_yields
          (show previous < a.plainText.length by omega) with
        ⟨start, s, hYields⟩
      rw [hLength,
        hYields.originalOffset_length hLength.symm] at hPlace
      have hStop := Except.ok.inj hPlace
      rcases hYields with ⟨before, after, hCut, hStart, _, hTo⟩
      have hSplit :
          a.segments = (before ++ [s]) ++ after := by
        rw [hCut, List.append_assoc]
        rfl
      have hTotal := a.length_plainText
      rw [hCut, plainLength_append, plainLength_cons] at hTotal
      have hChain := hCovers.2
      rw [hSplit, Segment.chain_append_iff] at hChain
      rcases hChain with ⟨middle, hBefore, hAfter⟩
      rw [Segment.chain_append_iff] at hBefore
      rcases hBefore with ⟨_, _, _, _, hMiddle⟩
      have hEnd : s.stop = middle := hMiddle
      rw [← hEnd, hStop] at hAfter
      rw [← hLength]
      exact plainOffset_of_tail hCovers hSplit (by omega)
        hAfter

end AnnotatedText

end ProseCheck

------------------------------------------------------------
-- Offsets that Come Back
------------------------------------------------------------

namespace ProseCheck

namespace AnnotatedText

variable
  {a : AnnotatedText}
  {length : Nat}

/-
  No text segment has several characters that share their
  source.
-/
def Sharp
    (a : AnnotatedText) : Prop :=
  ∀ s ∈ a.segments, s.kind = .text →
    s.isIdentity = true ∨ s.content.length ≤ 1

instance
    (a : AnnotatedText) :
    Decidable a.Sharp := by
  unfold Sharp
  infer_instance

/- The place of a plain offset is taken back to the offset. -/
def ComesBack
    (a : AnnotatedText)
    (offset : Nat) : Prop :=
  ∃ place : Nat,
    a.originalOffset offset = .ok (place : Int) ∧
      a.plainOffset place = .ok (offset : Int)

/-
  The offset of a plain character comes back where its segment
  stands for itself, or begins with the character.
-/
theorem Yields.comesBack_iff
    (hCovers : a.Covers length)
    (hGrounded : a.Grounded)
    {offset start : Nat}
    {s : Segment}
    (hYields : a.Yields offset start s) :
    a.ComesBack offset ↔
      s.isIdentity = true ∨ offset = start := by
  rcases originalOffset_bounds hCovers
    (Nat.le_of_lt hYields.lt_length) false with
    ⟨place, hPlace, _⟩
  have hStart := Except.ok.inj
    (hPlace.symm.trans hYields.originalOffset_eq)
  have hBack :=
    hYields.plainOffset_originalStart hCovers hGrounded
  rw [← hStart] at hBack
  constructor
  · rintro ⟨other, hOther, hReturn⟩
    have hSame := Except.ok.inj (hPlace.symm.trans hOther)
    rw [← hSame, hBack] at hReturn
    have hEq := Except.ok.inj hReturn
    split at hEq
    · rename_i hIdentity
      exact Or.inl hIdentity
    · exact Or.inr (Int.ofNat.inj hEq).symm
  · intro hCase
    refine ⟨place, hPlace, ?_⟩
    rw [hBack]
    rcases hCase with hIdentity | hFirst
    · rw [if_pos hIdentity]
    · rw [hFirst, ite_self]

/-
  In a covering text whose segments have no more characters
  than they cover, every plain offset comes back exactly where
  no segment has several characters that share their source.
-/
theorem comesBack_iff_sharp
    (hCovers : a.Covers length)
    (hFits : a.Fits) :
    (∀ offset ≤ a.plainText.length, a.ComesBack offset) ↔
      a.Sharp := by
  have hGrounded := hFits.grounded
  constructor
  · intro hAll s hMem hKind
    by_cases hFew : s.content.length ≤ 1
    · exact Or.inr hFew
    rcases List.append_of_mem hMem with ⟨before, after, hCut⟩
    have hText : s.contribution = s.content := by
      rw [Segment.contribution, hKind]
    -- the second character of the segment has to come back
    have hYields :
        a.Yields (plainLength before + 1)
          (plainLength before) s := by
      refine ⟨before, after, hCut, rfl, Nat.le_succ _, ?_⟩
      rw [hText]
      omega
    have hBack := hAll _ (Nat.le_of_lt hYields.lt_length)
    rw [hYields.comesBack_iff hCovers hGrounded] at hBack
    exact Or.inl (hBack.resolve_right (by omega))
  · intro hSharp offset hOffset
    rcases Nat.lt_or_eq_of_le hOffset with hInside | rfl
    · rcases a.exists_yields hInside with
        ⟨start, s, hYields⟩
      rw [hYields.comesBack_iff hCovers hGrounded]
      have hBounds := hYields.bounds
      rcases hSharp s hYields.mem hYields.kind_eq with
        hIdentity | hFew
      · exact Or.inl hIdentity
      · exact Or.inr (by omega)
    · exact plainOffset_last_stop hCovers

end AnnotatedText

end ProseCheck

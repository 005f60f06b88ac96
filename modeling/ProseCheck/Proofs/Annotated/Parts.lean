import ProseCheck.Proofs.Annotated.Accepted
import ProseCheck.Proofs.Annotated.PlainOffsets
import ProseCheck.Proofs.Text.Slices

/-
  This file follows a text segment from the builder that
  accepts it to the annotated text that is built.  It may be
  merged with its neighbours, but then both stand character
  by character for their source, and it stays a stretch of
  the merged segment.  So its content is in the plain text,
  and the two translations take it to its own source.

  Main declarations:
    * `Segment.PartOf`
    * `Builder.Keeps`
    * `Builder.keeps_of_addAll`
    * `AnnotatedText.maps_part`
-/

------------------------------------------------------------
-- Parts of Segments
------------------------------------------------------------

namespace ProseCheck

namespace Segment

/-
  A segment is the other one, or both stand character by
  character for their source and its characters are a stretch
  of those of the other.
-/
def PartOf
    (t s : Segment) : Prop :=
  t = s ∨
    (t.kind = s.kind ∧ t.isIdentity = true ∧
      s.isIdentity = true ∧
      ∃ front back,
        s.content = front ++ t.content ++ back ∧
          t.start = s.start + front.length)

/- A segment is as long as its content if this is its source. -/
theorem stop_of_isIdentity
    {s : Segment}
    (hIdentity : s.isIdentity = true) :
    s.stop = s.start + s.content.length := by
  rw [isIdentity, beq_iff_eq, span] at hIdentity
  omega

/- A part of a segment has its kind. -/
theorem PartOf.kind_eq
    {t s : Segment}
    (hPart : t.PartOf s) :
    t.kind = s.kind := by
  rcases hPart with hSame | ⟨hKind, _⟩
  · rw [hSame]
  · exact hKind

/- A part lies where the segment lies. -/
theorem PartOf.bounds
    {t s : Segment}
    (hPart : t.PartOf s) :
    s.start ≤ t.start ∧ t.stop ≤ s.stop := by
  rcases hPart with
    rfl | ⟨_, hPart, hWhole, front, back, hContent, hStart⟩
  · exact ⟨Int.le_refl _, Int.le_refl _⟩
  · have hStop := stop_of_isIdentity hPart
    have hEnd := stop_of_isIdentity hWhole
    rw [hContent] at hEnd
    simp only [List.length_append] at hEnd
    omega

end Segment

end ProseCheck

------------------------------------------------------------
-- Merged Segments
------------------------------------------------------------

namespace ProseCheck

namespace Builder

/- Text is merged only where it stands for itself. -/
theorem mergeable_iff_of_text
    {previous next : Segment}
    (hKind : next.kind = .text) :
    mergeable previous next = true ↔
      previous.kind = .text ∧ previous.isIdentity = true ∧
        next.isIdentity = true := by
  simp [mergeable, hKind]

/- Two neighbours that stand for themselves do so when merged. -/
theorem isIdentity_merge
    {previous next : Segment}
    (hPrevious : previous.isIdentity = true)
    (hNext : next.isIdentity = true)
    (hJoin : next.start = previous.stop) :
    (merge previous next).isIdentity = true := by
  have hFirst := Segment.stop_of_isIdentity hPrevious
  have hSecond := Segment.stop_of_isIdentity hNext
  rw [Segment.isIdentity, beq_iff_eq, Segment.span, merge,
    List.length_append]
  dsimp only
  omega

/- A part of a text segment stays one when more is merged. -/
theorem partOf_merge_left
    {t previous next : Segment}
    (hPart : t.PartOf previous)
    (hPrevious : previous.isIdentity = true)
    (hNext : next.isIdentity = true)
    (hJoin : next.start = previous.stop)
    (hKind : previous.kind = next.kind) :
    t.PartOf (merge previous next) := by
  have hMerged := isIdentity_merge hPrevious hNext hJoin
  rcases hPart with
    rfl | ⟨hSame, hPart, _, front, back, hContent, hStart⟩
  · exact Or.inr ⟨hKind, hPrevious, hMerged, [],
      next.content, rfl, (Int.add_zero _).symm⟩
  · refine Or.inr ⟨hSame.trans hKind, hPart, hMerged, front,
      back ++ next.content, ?_, hStart⟩
    simp [merge, hContent]

/- What is merged to the others becomes a part. -/
theorem partOf_merge_right
    {previous next : Segment}
    (hPrevious : previous.isIdentity = true)
    (hNext : next.isIdentity = true)
    (hJoin : next.start = previous.stop) :
    next.PartOf (merge previous next) := by
  have hStop := Segment.stop_of_isIdentity hPrevious
  refine Or.inr ⟨rfl, hNext,
    isIdentity_merge hPrevious hNext hJoin,
    previous.content, [], ?_, ?_⟩
  · simp [merge]
  · rw [hJoin, hStop]
    rfl

/- A text segment is a part of one of those of the builder. -/
def Keeps
    (b : Builder)
    (t : Segment) : Prop :=
  ∃ s ∈ b.recent, t.PartOf s

/- A text segment that is kept stays kept. -/
theorem keeps_push_of_keeps
    {older : List Segment}
    {s t : Segment}
    (hKind : t.kind = .text)
    (hJoin : s.start = (Builder.mk older).reached)
    (hKeeps : (Builder.mk older).Keeps t) :
    (Builder.mk (push s older)).Keeps t := by
  cases older with
  | nil =>
      rcases hKeeps with ⟨_, hMem, _⟩
      cases hMem
  | cons previous older =>
      rcases hKeeps with ⟨u, hMem, hPart⟩
      rw [push]
      by_cases hMerge : mergeable previous s = true
      · rw [if_pos hMerge]
        rcases List.mem_cons.mp hMem with rfl | hOlder
        -- the merged neighbour is text, as its part is
        · have hText : s.kind = .text := by
            rw [mergeable, Bool.and_eq_true, beq_iff_eq]
              at hMerge
            rw [← hMerge.1, ← hPart.kind_eq, hKind]
          rcases (mergeable_iff_of_text hText).mp hMerge with
            ⟨hSame, hFirst, hSecond⟩
          exact ⟨_, List.mem_cons_self,
            partOf_merge_left hPart hFirst hSecond hJoin
              (hSame.trans hText.symm)⟩
        · exact ⟨u, List.mem_cons_of_mem _ hOlder, hPart⟩
      · rw [if_neg hMerge]
        exact ⟨u, List.mem_cons_of_mem _ hMem, hPart⟩

/- A text segment that is accepted is kept. -/
theorem keeps_push
    {older : List Segment}
    {s : Segment}
    (hKind : s.kind = .text)
    (hJoin : s.start = (Builder.mk older).reached) :
    (Builder.mk (push s older)).Keeps s := by
  cases older with
  | nil => exact ⟨s, List.mem_singleton_self s, Or.inl rfl⟩
  | cons previous older =>
      rw [push]
      by_cases hMerge : mergeable previous s = true
      · rw [if_pos hMerge]
        rcases (mergeable_iff_of_text hKind).mp hMerge with
          ⟨_, hFirst, hSecond⟩
        exact ⟨_, List.mem_cons_self,
          partOf_merge_right hFirst hSecond hJoin⟩
      · rw [if_neg hMerge]
        exact ⟨s, List.mem_cons_self, Or.inl rfl⟩

end Builder

end ProseCheck

------------------------------------------------------------
-- Kept Segments
------------------------------------------------------------

namespace ProseCheck

namespace Builder

variable {b next : Builder}

/- A text segment that is kept is kept with all that comes. -/
theorem Keeps.of_addAll
    {t : Segment}
    (hKind : t.kind = .text)
    (hKeeps : b.Keeps t)
    {ss : List Segment}
    (hAdd : b.addAll ss = .ok next) :
    next.Keeps t := by
  induction ss generalizing b with
  | nil =>
      cases hAdd
      exact hKeeps
  | cons s ss ih =>
      rcases (addAll_cons_eq_ok_iff s ss).mp hAdd with
        ⟨middle, hFirst, hRest⟩
      refine ih ?_ hRest
      rcases add_cases hFirst with
        ⟨hStart, _, ⟨_, _, rfl⟩ | rfl⟩
      · exact hKeeps
      · exact keeps_push_of_keeps hKind hStart hKeeps

/- Each text segment with a span that is accepted is kept. -/
theorem keeps_of_addAll
    {ss : List Segment}
    (hAdd : b.addAll ss = .ok next)
    {t : Segment}
    (hMem : t ∈ ss)
    (hKind : t.kind = .text)
    (hOrder : t.start < t.stop) :
    next.Keeps t := by
  induction ss generalizing b with
  | nil => cases hMem
  | cons s ss ih =>
      rcases (addAll_cons_eq_ok_iff s ss).mp hAdd with
        ⟨middle, hFirst, hRest⟩
      rcases List.mem_cons.mp hMem with rfl | hLater
      · have hHere : middle.Keeps t := by
          rcases add_cases hFirst with
            ⟨hStart, _, ⟨hSpan, _, _⟩ | rfl⟩
          · rw [Segment.span] at hSpan
            omega
          · exact keeps_push hKind hStart
        exact hHere.of_addAll hKind hRest
      · exact ih hRest hLater

end Builder

end ProseCheck

------------------------------------------------------------
-- Offsets of a Part
------------------------------------------------------------

namespace ProseCheck

namespace Segment

/-
  Where a part of a text segment begins in it: there its own
  source begins, and it ends there where its content does.
-/
theorem PartOf.exists_front
    {t s : Segment}
    (hPart : t.PartOf s)
    (hKind : t.kind = .text)
    (hOrder : t.start < t.stop) :
    ∃ front back,
      s.content = front ++ t.content ++ back ∧
        (∀ start,
          AnnotatedText.plainWithin start s t.start =
            start + front.length) ∧
        s.originalStart front.length = t.start ∧
        s.originalEnd (front.length + t.content.length - 1) =
          t.stop := by
  have hText : s.kind = .text := by
    rw [← hPart.kind_eq, hKind]
  rcases hPart with
    rfl | ⟨_, hPart, hWhole, front, back, hContent, hStart⟩
  -- the whole segment begins with its first character
  · refine ⟨[], [], by simp, ?_, ?_, ?_⟩
    · intro start
      have hSpan : 0 < t.span := by
        rw [span]
        omega
      simp only [AnnotatedText.plainWithin, hText,
        Int.sub_self, hSpan, if_true, ite_self,
        List.length_nil]
      omega
    · unfold originalStart span
      split
      · simp
      · simp only [List.length_nil]
        omega
    · unfold originalEnd
      simp only [List.length_nil]
      split
      · rename_i hIdentity
        have hStop := stop_of_isIdentity hIdentity
        omega
      · rw [if_pos (by omega)]
  -- in a segment that stands for itself, all is in its place
  · have hStop := stop_of_isIdentity hPart
    refine ⟨front, back, hContent, ?_, ?_, ?_⟩
    · intro start
      have hInside : front.length ≤ s.content.length := by
        rw [hContent]
        simp only [List.length_append]
        omega
      simp only [AnnotatedText.plainWithin, hText, hWhole,
        if_true]
      omega
    · rw [originalStart, if_pos hWhole, hStart]
    · rw [originalEnd, if_pos hWhole]
      omega

end Segment

namespace AnnotatedText

/-
  A text segment that is a part of one of a covering text: it
  starts at a plain offset where its content stands, and the
  content begins and ends where the segment does.
-/
theorem maps_part
    {a : AnnotatedText}
    {length : Nat}
    (hCovers : a.Covers length)
    {s t : Segment}
    (hMem : s ∈ a.segments)
    (hPart : t.PartOf s)
    (hKind : t.kind = .text)
    (hOrder : t.start < t.stop) :
    ∃ p : Nat,
      a.plainOffset t.start = .ok (p : Int) ∧
        a.plainText.slice p (p + t.content.length) =
          t.content ∧
        (t.content ≠ [] →
          a.originalOffset p = .ok t.start ∧
            a.originalOffset (p + t.content.length : Nat)
              true = .ok t.stop) := by
  rcases List.append_of_mem hMem with ⟨before, after, hCut⟩
  rcases hPart.exists_front hKind hOrder with
    ⟨front, back, hContent, hPlace, hFirst, hLast⟩
  have hBounds := hPart.bounds
  have hText : s.contribution = s.content := by
    rw [Segment.contribution, ← hPart.kind_eq, hKind]
  refine ⟨plainLength before + front.length, ?_, ?_, ?_⟩
  · rw [plainOffset_of_cut hCovers hCut hBounds.1 (by omega),
      hPlace, Int.natCast_add]
  · have hPlain : a.plainText =
        before.flatMap Segment.contribution ++ front ++
          (t.content ++
            (back ++ after.flatMap Segment.contribution)) := by
      rw [plainText, hCut, List.flatMap_append,
        List.flatMap_cons, hText, hContent]
      simp
    have hStart : plainLength before + front.length =
        (before.flatMap Segment.contribution ++
          front).length := by
      simp [plainLength]
    rw [hPlain, hStart, Text.slice_append]
  · intro hSome
    have hPositive := List.length_pos_iff.mpr hSome
    have hLength := congrArg List.length hContent
    simp only [List.length_append] at hLength
    -- the characters of the part come from the segment
    have hYields :
        ∀ i < t.content.length,
          a.Yields (plainLength before + front.length + i)
            (plainLength before) s := by
      intro i hLess
      refine ⟨before, after, hCut, rfl, by omega, ?_⟩
      rw [hText]
      omega
    constructor
    · have hStart := (hYields 0 hPositive).originalOffset_eq
      rw [Nat.add_zero] at hStart
      rw [hStart, ← hFirst]
      congr 2
      omega
    · have hEnd := (hYields (t.content.length - 1)
        (by omega)).originalOffset_end
      have hNext :
          plainLength before + front.length +
              (t.content.length - 1) + 1 =
            plainLength before + front.length +
              t.content.length := by
        omega
      rw [hNext] at hEnd
      rw [hEnd, ← hLast]
      congr 2
      omega

end AnnotatedText

end ProseCheck

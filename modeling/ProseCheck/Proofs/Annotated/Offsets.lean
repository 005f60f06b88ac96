import ProseCheck.Annotated.Basic
import ProseCheck.Proofs.Annotated.Cover
import ProseCheck.Proofs.Search

/-
  This file says where an annotated text takes a plain offset
  to.  Each plain character comes from one of the segments,
  and the search for it finds this segment.  In a text that
  covers its source, the offsets that come out lie in it.

  Main declarations:
    * `AnnotatedText.Yields`
    * `AnnotatedText.exists_yields`
    * `AnnotatedText.holder?_of_yields`
    * `AnnotatedText.originalOffset_bounds`
    * `AnnotatedText.originalOffset_identity`
-/

------------------------------------------------------------
-- Placed Segments
------------------------------------------------------------

namespace ProseCheck

/- A segment adds something if it adds some characters. -/
theorem Segment.isTextual_iff
    (s : Segment) :
    s.isTextual = true ↔ 0 < s.contribution.length := by
  rw [isTextual, Bool.not_eq_true',
    List.isEmpty_eq_false_iff, List.length_pos_iff]

/-
  A segment stands for itself if it has one character for each
  that it covers.
-/
theorem Segment.isIdentity_iff
    (s : Segment) :
    s.isIdentity = true ↔
      (s.content.length : Int) = s.stop - s.start := by
  rw [isIdentity, beq_iff_eq, span]

/- The number of plain characters that segments add. -/
def plainLength
    (ss : List Segment) : Nat :=
  (ss.flatMap Segment.contribution).length

/- A segment adds its characters to those of the others. -/
theorem plainLength_cons
    (s : Segment)
    (ss : List Segment) :
    plainLength (s :: ss) =
      s.contribution.length + plainLength ss := by
  simp [plainLength]

/- Segments add as much as those before and those behind. -/
theorem plainLength_append
    (ss ts : List Segment) :
    plainLength (ss ++ ts) =
      plainLength ss + plainLength ts := by
  simp [plainLength]

namespace AnnotatedText

/- The plain text is as long as what the segments add. -/
theorem length_plainText
    (a : AnnotatedText) :
    a.plainText.length = plainLength a.segments := rfl

/- Segments are placed behind those that stand before them. -/
theorem placeFrom_append
    (offset : Nat)
    (ss ts : List Segment) :
    placeFrom offset (ss ++ ts) =
      placeFrom offset ss ++
        placeFrom (offset + plainLength ss) ts := by
  induction ss generalizing offset with
  | nil => rfl
  | cons s ss ih =>
      rw [List.cons_append, placeFrom, ih, plainLength_cons,
        Nat.add_assoc]
      rfl

/- A placed segment lies among the characters of all. -/
theorem mem_placeFrom_bounds
    {offset start : Nat}
    {s : Segment}
    {ss : List Segment}
    (hMem : (start, s) ∈ placeFrom offset ss) :
    offset ≤ start ∧
      start + s.contribution.length ≤
        offset + plainLength ss := by
  induction ss generalizing offset with
  | nil => cases hMem
  | cons t ss ih =>
      rw [plainLength_cons]
      rcases List.mem_cons.mp hMem with hHere | hLater
      · cases hHere
        omega
      · have hRest := ih hLater
        omega

/- The offsets of placed segments go up. -/
theorem placeFrom_pairwise
    (offset : Nat)
    (ss : List Segment) :
    (placeFrom offset ss).Pairwise
      (fun p q => p.1 ≤ q.1) := by
  induction ss generalizing offset with
  | nil => exact List.Pairwise.nil
  | cons s ss ih =>
      refine List.pairwise_cons.mpr ⟨?_, ih _⟩
      rintro ⟨start, t⟩ hMem
      have hBounds := mem_placeFrom_bounds hMem
      dsimp only
      omega

end AnnotatedText

end ProseCheck

------------------------------------------------------------
-- The Segment of a Plain Character
------------------------------------------------------------

namespace ProseCheck

namespace AnnotatedText

/-
  The plain character at an offset comes from the segment,
  whose characters begin at the plain offset `start`.
-/
def Yields
    (a : AnnotatedText)
    (offset start : Nat)
    (s : Segment) : Prop :=
  ∃ before after, a.segments = before ++ s :: after ∧
    start = plainLength before ∧ start ≤ offset ∧
    offset < start + s.contribution.length

/- The segment of a plain character is one of the text. -/
theorem Yields.mem
    {a : AnnotatedText}
    {offset start : Nat}
    {s : Segment}
    (hYields : a.Yields offset start s) :
    s ∈ a.segments := by
  rcases hYields with ⟨before, after, hSegments, _⟩
  simp [hSegments]

/- The plain character is one of the content of its segment. -/
theorem Yields.bounds
    {a : AnnotatedText}
    {offset start : Nat}
    {s : Segment}
    (hYields : a.Yields offset start s) :
    start ≤ offset ∧ offset < start + s.content.length := by
  rcases hYields with ⟨_, _, _, _, hStart, hStop⟩
  refine ⟨hStart, ?_⟩
  unfold Segment.contribution at hStop
  split at hStop
  · exact hStop
  · simp only [List.length_nil] at hStop
    omega

/- Each plain character comes from some segment. -/
theorem exists_yields
    (a : AnnotatedText)
    {offset : Nat}
    (hOffset : offset < a.plainText.length) :
    ∃ start s, a.Yields offset start s := by
  rcases a with ⟨segments, sourceLength⟩
  change offset < plainLength segments at hOffset
  -- the segments before the one that is found add up to `start`
  suffices hFound :
      ∃ before s after, segments = before ++ s :: after ∧
        plainLength before ≤ offset ∧
        offset < plainLength before + s.contribution.length by
    rcases hFound with
      ⟨before, s, after, hSegments, hStart, hStop⟩
    exact ⟨_, s, before, after, hSegments, rfl, hStart, hStop⟩
  induction segments generalizing offset with
  | nil => exact absurd hOffset (Nat.not_lt_zero _)
  | cons t ts ih =>
      rw [plainLength_cons] at hOffset
      by_cases hHere : offset < t.contribution.length
      · refine ⟨[], t, ts, rfl, Nat.zero_le _, ?_⟩
        rw [plainLength, List.flatMap_nil, List.length_nil]
        omega
      · have hRest :
            offset - t.contribution.length <
              plainLength ts := by
          omega
        rcases ih hRest with
          ⟨before, s, after, hSegments, hStart, hStop⟩
        refine ⟨t :: before, s, after, by simp [hSegments],
          ?_, ?_⟩
        · rw [plainLength_cons]
          omega
        · rw [plainLength_cons]
          omega

end AnnotatedText

end ProseCheck

------------------------------------------------------------
-- The Search for the Segment
------------------------------------------------------------

namespace ProseCheck

namespace AnnotatedText

/- The entries of segments that add something go up. -/
theorem starts_textual_pairwise
    (a : AnnotatedText) :
    (a.textual.map (fun p => (p.1 : Int))).Pairwise
      (· ≤ ·) := by
  rw [List.pairwise_map]
  apply List.Pairwise.filter _
  exact (placeFrom_pairwise 0 a.segments).imp
    (fun hLe => Int.ofNat_le.mpr hLe)

/-
  The entry of the segment that a plain character comes from
  stands between entries that end at or before the character
  and entries that begin behind it.
-/
theorem Yields.textual_eq
    {a : AnnotatedText}
    {offset start : Nat}
    {s : Segment}
    (hYields : a.Yields offset start s) :
    ∃ before after, a.textual = before ++ (start, s) :: after ∧
      (∀ p ∈ before, p.1 ≤ offset) ∧
      (∀ p ∈ after, start + s.contribution.length ≤ p.1 ∧
        p.1 < a.plainText.length) := by
  rcases hYields with
    ⟨before, after, hSegments, hStart, hFrom, hTo⟩
  have hTextual : s.isTextual = true := by
    rw [Segment.isTextual_iff]
    omega
  refine ⟨(placeFrom 0 before).filter (·.2.isTextual),
    (placeFrom (start + s.contribution.length)
      after).filter (·.2.isTextual), ?_, ?_, ?_⟩
  · rw [textual, placed, hSegments, placeFrom_append,
      placeFrom, List.filter_append, Nat.zero_add, ← hStart,
      List.filter_cons_of_pos (by simpa using hTextual)]
  · rintro ⟨first, t⟩ hMem
    have hBounds :=
      mem_placeFrom_bounds (List.mem_filter.mp hMem).1
    dsimp only
    omega
  · rintro ⟨first, t⟩ hMem
    rcases List.mem_filter.mp hMem with ⟨hPlaced, hText⟩
    have hBounds := mem_placeFrom_bounds hPlaced
    have hPositive := (Segment.isTextual_iff t).mp hText
    have hTotal := a.length_plainText
    rw [hSegments, plainLength_append, plainLength_cons]
      at hTotal
    dsimp only
    omega

/- The search finds the segment that a character comes from. -/
theorem holder?_of_yields
    {a : AnnotatedText}
    {offset start : Nat}
    {s : Segment}
    (hYields : a.Yields offset start s) :
    holder? a.textual offset = some (start, s) := by
  have hSorted := a.starts_textual_pairwise
  rcases hYields.textual_eq with
    ⟨before, after, hTextual, hBefore, hAfter⟩
  rcases hYields with ⟨_, _, _, _, hFrom, hTo⟩
  have hFirst :
      (before.map (fun p => (p.1 : Int))).countP
        (· ≤ (offset : Int)) = before.length := by
    rw [← List.length_map (fun p => (p.1 : Int)),
      List.countP_eq_length]
    intro x hMem
    rcases List.mem_map.mp hMem with ⟨p, hEntry, rfl⟩
    simpa using hBefore p hEntry
  have hLast :
      (after.map (fun p => (p.1 : Int))).countP
        (· ≤ (offset : Int)) = 0 := by
    rw [List.countP_eq_zero]
    intro x hMem
    rcases List.mem_map.mp hMem with ⟨p, hEntry, rfl⟩
    have hBeyond := (hAfter p hEntry).1
    simp only [decide_eq_true_eq]
    omega
  rw [holder?, insertionPoint_eq_countP hSorted, hTextual,
    List.map_append, List.map_cons, List.countP_append,
    List.countP_cons_of_pos (by simpa using hFrom), hFirst,
    hLast]
  simp

/- Of a text without plain characters no entry is left. -/
theorem textual_eq_nil
    {a : AnnotatedText}
    (hEmpty : a.plainText.length = 0) :
    a.textual = [] := by
  rw [textual, List.filter_eq_nil_iff]
  rintro ⟨start, s⟩ hMem
  have hBounds := mem_placeFrom_bounds hMem
  have hTotal : plainLength a.segments = 0 := hEmpty
  have hNone : s.contribution = [] := by
    rw [← List.length_eq_zero_iff]
    omega
  simp [Segment.isTextual, hNone]

end AnnotatedText

end ProseCheck

------------------------------------------------------------
-- Source Offsets
------------------------------------------------------------

namespace ProseCheck

namespace Segment

/- A content character begins inside of its segment. -/
theorem originalStart_bounds
    {s : Segment}
    (hOrder : s.start ≤ s.stop)
    {index : Int}
    (hFrom : 0 ≤ index)
    (hTo : index < s.content.length) :
    s.start ≤ s.originalStart index ∧
      s.originalStart index ≤ s.stop := by
  unfold originalStart
  split
  · rename_i hIdentity
    rw [isIdentity, beq_iff_eq, span] at hIdentity
    omega
  · unfold span
    omega

/- A content character ends inside of its segment. -/
theorem originalEnd_bounds
    {s : Segment}
    (hOrder : s.start ≤ s.stop)
    {index : Int}
    (hFrom : 0 ≤ index)
    (hTo : index < s.content.length) :
    s.start ≤ s.originalEnd index ∧
      s.originalEnd index ≤ s.stop := by
  unfold originalEnd
  split
  · rename_i hIdentity
    rw [isIdentity, beq_iff_eq, span] at hIdentity
    omega
  split
  · omega
  · omega

end Segment

namespace AnnotatedText

/- A character that comes from a segment is one of the text. -/
theorem Yields.lt_length
    {a : AnnotatedText}
    {offset start : Nat}
    {s : Segment}
    (hYields : a.Yields offset start s) :
    offset < a.plainText.length := by
  rcases hYields with ⟨before, after, hSegments, rfl, _, hTo⟩
  have hTotal := a.length_plainText
  rw [hSegments, plainLength_append, plainLength_cons]
    at hTotal
  omega

/- Where there are plain characters, there is a last entry. -/
theorem Yields.exists_last
    {a : AnnotatedText}
    {offset start : Nat}
    {s : Segment}
    (hYields : a.Yields offset start s) :
    ∃ last, a.textual.getLast? = some last := by
  rcases hYields.textual_eq with ⟨_, _, hTextual, _⟩
  cases hLast : a.textual.getLast? with
  | none =>
      rw [List.getLast?_eq_none_iff.mp hLast] at hTextual
      simp at hTextual
  | some last => exact ⟨last, rfl⟩

/- Where a plain offset is taken to, if there are characters. -/
theorem originalOffset_of_last
    {a : AnnotatedText}
    {last : Nat × Segment}
    (hLast : a.textual.getLast? = some last)
    {offset : Nat}
    (hOffset : offset ≤ a.plainText.length)
    (isEnd : Bool) :
    a.originalOffset offset isEnd =
      if isEnd = true ∧ 0 < offset then
        .ok (endOf a.textual (offset - 1))
      else if offset = a.plainText.length then
        .ok last.2.stop
      else
        .ok (startOf a.textual offset) := by
  rw [originalOffset, if_neg (by omega)]
  simp only [hLast, Int.toNat_natCast, Int.natCast_pos,
    Int.natCast_inj]

/- Where a plain character begins. -/
theorem Yields.originalOffset_eq
    {a : AnnotatedText}
    {offset start : Nat}
    {s : Segment}
    (hYields : a.Yields offset start s) :
    a.originalOffset offset =
      .ok (s.originalStart (offset - start)) := by
  have hLength := hYields.lt_length
  rcases hYields.exists_last with ⟨last, hLast⟩
  rw [originalOffset_of_last hLast (Nat.le_of_lt hLength),
    if_neg (by simp), if_neg (Nat.ne_of_lt hLength), startOf,
    holder?_of_yields hYields]

/- Where the end of a range behind a plain character lies. -/
theorem Yields.originalOffset_end
    {a : AnnotatedText}
    {offset start : Nat}
    {s : Segment}
    (hYields : a.Yields offset start s) :
    a.originalOffset (offset + 1 : Nat) true =
      .ok (s.originalEnd (offset - start)) := by
  rcases hYields.exists_last with ⟨last, hLast⟩
  rw [originalOffset_of_last hLast hYields.lt_length,
    if_pos ⟨rfl, Nat.succ_pos offset⟩, Nat.succ_sub_one,
    endOf, holder?_of_yields hYields]

/- Where the end of the plain text lies. -/
theorem Yields.originalOffset_length
    {a : AnnotatedText}
    {offset start : Nat}
    {s : Segment}
    (hYields : a.Yields offset start s)
    (hEnd : offset + 1 = a.plainText.length) :
    a.originalOffset (offset + 1 : Nat) = .ok s.stop := by
  rcases hYields.textual_eq with
    ⟨before, after, hTextual, _, hAfter⟩
  have hNone : after = [] := by
    rw [List.eq_nil_iff_forall_not_mem]
    intro p hMem
    have hBounds := hAfter p hMem
    rcases hYields with ⟨_, _, _, _, _, hTo⟩
    omega
  have hLast : a.textual.getLast? = some (start, s) := by
    rw [hTextual, hNone]
    simp
  rw [originalOffset_of_last hLast hYields.lt_length,
    if_neg (by simp), if_pos hEnd]

/- A range that ends where it starts is not cut at its end. -/
theorem originalOffset_zero_end
    (a : AnnotatedText) :
    a.originalOffset 0 true = a.originalOffset 0 := by
  simp [originalOffset]

/- Without plain characters there is but one offset. -/
theorem originalOffset_of_empty
    {a : AnnotatedText}
    (hEmpty : a.plainText.length = 0)
    (isEnd : Bool) :
    a.originalOffset 0 isEnd = .ok 0 := by
  simp [originalOffset, textual_eq_nil hEmpty, hEmpty]

/-
  Every plain offset is taken to the start or to the end of a
  plain character, or to the end of the last one's segment,
  unless there are no plain characters at all.
-/
theorem originalOffset_cases
    (a : AnnotatedText)
    {offset : Nat}
    (hOffset : offset ≤ a.plainText.length)
    (isEnd : Bool) :
    (offset = 0 ∧ a.originalOffset offset isEnd = .ok 0) ∨
      (∃ start s, a.Yields offset start s ∧
        a.originalOffset offset isEnd =
          .ok (s.originalStart (offset - start))) ∨
      (∃ previous start s, offset = previous + 1 ∧
        a.Yields previous start s ∧
        (a.originalOffset offset isEnd =
            .ok (s.originalEnd (previous - start)) ∨
          (offset = a.plainText.length ∧
            a.originalOffset offset isEnd = .ok s.stop))) := by
  by_cases hEnd : isEnd = true ∧ 0 < offset
  · rcases hEnd with ⟨rfl, hPositive⟩
    obtain ⟨previous, rfl⟩ := Nat.exists_eq_add_one.mpr
      hPositive
    rcases a.exists_yields hOffset with ⟨start, s, hYields⟩
    exact Or.inr (Or.inr ⟨previous, start, s, rfl, hYields,
      Or.inl hYields.originalOffset_end⟩)
  · have hPlain :
        a.originalOffset offset isEnd =
          a.originalOffset offset := by
      cases isEnd with
      | false => rfl
      | true =>
          have hZero : offset = 0 := by
            by_contra hSome
            exact hEnd ⟨rfl, Nat.pos_of_ne_zero hSome⟩
          rw [hZero]
          exact a.originalOffset_zero_end
    rw [hPlain]
    rcases Nat.lt_or_eq_of_le hOffset with hInside | hLast
    · rcases a.exists_yields hInside with ⟨start, s, hYields⟩
      exact Or.inr (Or.inl ⟨start, s, hYields,
        hYields.originalOffset_eq⟩)
    · cases offset with
      | zero =>
          exact Or.inl ⟨rfl,
            originalOffset_of_empty hLast.symm false⟩
      | succ previous =>
          rcases a.exists_yields hOffset with
            ⟨start, s, hYields⟩
          exact Or.inr (Or.inr ⟨previous, start, s, rfl,
            hYields, Or.inr ⟨hLast,
              hYields.originalOffset_length hLast⟩⟩)

end AnnotatedText

end ProseCheck

------------------------------------------------------------
-- Covering Texts
------------------------------------------------------------

namespace ProseCheck

namespace AnnotatedText

/-
  In a text that covers its source, every plain offset is
  taken to an offset of the source.
-/
theorem originalOffset_bounds
    {a : AnnotatedText}
    {length : Nat}
    (hCovers : a.Covers length)
    {offset : Nat}
    (hOffset : offset ≤ a.plainText.length)
    (isEnd : Bool) :
    ∃ place : Nat,
      a.originalOffset offset isEnd = .ok (place : Int) ∧
        place ≤ length := by
  -- an offset between zero and the length is a natural number
  suffices hPlace :
      ∃ place : Int,
        a.originalOffset offset isEnd = .ok place ∧
          0 ≤ place ∧ place ≤ length by
    rcases hPlace with ⟨place, hOk, hFrom, hTo⟩
    obtain ⟨n, rfl⟩ := Int.eq_ofNat_of_zero_le hFrom
    exact ⟨n, hOk, Int.ofNat_le.mp hTo⟩
  rcases a.originalOffset_cases hOffset isEnd with
    ⟨_, hOk⟩ | ⟨start, s, hYields, hOk⟩ |
      ⟨previous, start, s, _, hYields, hOk⟩
  · exact ⟨0, hOk, Int.le_refl 0, Int.natCast_nonneg length⟩
  · have hSegment := hCovers.2.bounds_of_mem hYields.mem
    have hInside := hYields.bounds
    have hFrom : (0 : Int) ≤ offset - start := by omega
    have hTo : (offset : Int) - start < s.content.length := by
      omega
    have hPlace :=
      Segment.originalStart_bounds hSegment.2.1 hFrom hTo
    exact ⟨_, hOk, by omega, by omega⟩
  · have hSegment := hCovers.2.bounds_of_mem hYields.mem
    have hInside := hYields.bounds
    have hFrom : (0 : Int) ≤ previous - start := by omega
    have hTo :
        (previous : Int) - start < s.content.length := by
      omega
    have hPlace :=
      Segment.originalEnd_bounds hSegment.2.1 hFrom hTo
    rcases hOk with hOk | ⟨_, hOk⟩
    · exact ⟨_, hOk, by omega, by omega⟩
    · exact ⟨_, hOk, by omega, by omega⟩

/- The text that is its own plain text has it all as such. -/
theorem plainText_identity
    (t : Text) :
    (identity t).plainText = t := by
  cases t with
  | nil => rfl
  | cons c cs =>
      simp [identity, plainText, Segment.contribution]

/- In such a text each character comes from the only segment. -/
theorem Yields.eq_of_identity
    {t : Text}
    {offset start : Nat}
    {s : Segment}
    (hYields : (identity t).Yields offset start s) :
    start = 0 ∧ s = ⟨.text, 0, t.length, t⟩ := by
  have hMem := hYields.mem
  rcases hYields with ⟨before, after, hSegments, rfl, _, _⟩
  cases t with
  | nil => cases hMem
  | cons c cs =>
      rw [identity, if_neg (by simp)] at hSegments
      cases before with
      | nil => exact ⟨rfl, (List.cons.inj hSegments).1.symm⟩
      | cons b bs =>
          have hRest := (List.cons.inj hSegments).2
          simp at hRest

/- An offset of such a text is the source offset itself. -/
theorem originalOffset_identity
    {t : Text}
    {offset : Nat}
    (hOffset : offset ≤ t.length)
    (isEnd : Bool) :
    (identity t).originalOffset offset isEnd =
      .ok (offset : Int) := by
  have hInside : offset ≤ (identity t).plainText.length := by
    rw [plainText_identity]
    exact hOffset
  have hAll : Segment.isIdentity ⟨.text, 0, t.length, t⟩ :=
    by simp [Segment.isIdentity, Segment.span]
  rcases (identity t).originalOffset_cases hInside isEnd with
    ⟨hZero, hOk⟩ | ⟨start, s, hYields, hOk⟩ |
      ⟨previous, start, s, hNext, hYields, hOk⟩
  · rw [hOk, hZero]
    rfl
  · rcases hYields.eq_of_identity with ⟨rfl, rfl⟩
    rw [hOk, Segment.originalStart, if_pos hAll]
    simp
  · rcases hYields.eq_of_identity with ⟨rfl, rfl⟩
    rw [hNext] at hOk ⊢
    rcases hOk with hOk | ⟨hLast, hOk⟩
    · rw [hOk, Segment.originalEnd, if_pos hAll]
      simp
    · rw [plainText_identity] at hLast
      rw [hOk, hLast]

end AnnotatedText

end ProseCheck

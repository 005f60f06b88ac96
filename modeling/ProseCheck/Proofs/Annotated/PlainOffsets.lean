import ProseCheck.Proofs.Annotated.Offsets

/-
  This file says where an annotated text takes a source
  offset to, if its segments cover the source: the search
  finds the segment that the offset lies in.

  If no text segment has several characters that share their
  source characters, a plain offset is reached exactly where
  the source of the plain characters before it has ended.
  The two translations are then a connection.

  Main declarations:
    * `Segment.Chain.exists_cut`
    * `AnnotatedText.plainOffset_of_cut`
    * `AnnotatedText.lt_plainWithin_iff_of_cut`
    * `AnnotatedText.plainOffset_adjoint`
-/

------------------------------------------------------------
-- Cuts of a Chain
------------------------------------------------------------

namespace ProseCheck

namespace Segment

/- The starts of a chain go up. -/
theorem Chain.starts_pairwise
    {start stop : Int}
    {ss : List Segment}
    (hChain : Chain start stop ss) :
    (ss.map (·.start)).Pairwise (· ≤ ·) := by
  induction ss generalizing start with
  | nil => exact List.Pairwise.nil
  | cons s ss ih =>
      rcases hChain with ⟨hStart, hOrder, hRest⟩
      refine List.pairwise_cons.mpr ⟨?_, ih hRest⟩
      intro later hMem
      rcases List.mem_map.mp hMem with ⟨t, hLater, rfl⟩
      have hBounds := hRest.bounds_of_mem hLater
      dsimp only
      omega

/-
  The segments before a segment of a chain end where it
  starts, and those behind it start where it ends.
-/
theorem Chain.bounds_of_cut
    {start stop : Int}
    {before after : List Segment}
    {s : Segment}
    (hChain : Chain start stop (before ++ s :: after)) :
    (∀ t ∈ before, t.stop ≤ s.start) ∧
      s.start ≤ s.stop ∧
      (∀ t ∈ after, s.stop ≤ t.start) := by
  rcases (chain_append_iff start stop before _).mp hChain
    with ⟨middle, hBefore, hStart, hOrder, hAfter⟩
  refine ⟨?_, hOrder, ?_⟩
  · intro t hMem
    have hBounds := hBefore.bounds_of_mem hMem
    omega
  · intro t hMem
    exact (hAfter.bounds_of_mem hMem).1

/- An offset inside of a chain lies in one of its segments. -/
theorem Chain.exists_cut
    {start stop : Int}
    {ss : List Segment}
    (hChain : Chain start stop ss)
    {place : Int}
    (hFrom : start ≤ place)
    (hTo : place < stop) :
    ∃ before s after, ss = before ++ s :: after ∧
      s.start ≤ place ∧ place < s.stop := by
  induction ss generalizing start with
  | nil =>
      have hSame : start = stop := hChain
      omega
  | cons s ss ih =>
      rcases hChain with ⟨hStart, hOrder, hRest⟩
      by_cases hHere : place < s.stop
      · exact ⟨[], s, ss, rfl, by omega, hHere⟩
      · rcases ih hRest (by omega) with
          ⟨before, t, after, hCut, hInside⟩
        exact ⟨s :: before, t, after, by rw [hCut]; rfl,
          hInside⟩

end Segment

end ProseCheck

------------------------------------------------------------
-- The Segment of a Source Offset
------------------------------------------------------------

namespace ProseCheck

namespace AnnotatedText

/- Segments that are placed are the segments. -/
theorem map_placeFrom
    {α : Type}
    (f : Segment → α)
    (offset : Nat)
    (ss : List Segment) :
    (placeFrom offset ss).map (fun p => f p.2) = ss.map f := by
  induction ss generalizing offset with
  | nil => rfl
  | cons s ss ih =>
      rw [placeFrom, List.map_cons, List.map_cons, ih]

variable
  {a : AnnotatedText}
  {length : Nat}
  {before after : List Segment}
  {s : Segment}
  {place : Int}

/-
  As many segments start at or before a source offset as
  stand before the one that it lies in, and this one.
-/
theorem insertionPoint_of_cut
    (hCovers : a.Covers length)
    (hCut : a.segments = before ++ s :: after)
    (hFrom : s.start ≤ place)
    (hTo : place < s.stop) :
    insertionPoint (a.placed.map (fun p => p.2.start)) place =
      before.length + 1 := by
  have hChain := hCovers.2
  rw [hCut] at hChain
  have hSorted := hChain.starts_pairwise
  rcases hChain.bounds_of_cut with ⟨hBefore, _, hAfter⟩
  have hFirst :
      (before.map (·.start)).countP (· ≤ place) =
        before.length := by
    rw [← List.length_map (·.start), List.countP_eq_length]
    intro first hMem
    rcases List.mem_map.mp hMem with ⟨t, hEarlier, rfl⟩
    have hStop := hBefore t hEarlier
    have hOrder :=
      hChain.bounds_of_mem (List.mem_append_left _ hEarlier)
    simp only [decide_eq_true_eq]
    omega
  have hRest :
      (after.map (·.start)).countP (· ≤ place) =
        0 := by
    rw [List.countP_eq_zero]
    intro later hMem
    rcases List.mem_map.mp hMem with ⟨t, hLater, rfl⟩
    have hStart := hAfter t hLater
    simp only [decide_eq_true_eq]
    omega
  rw [placed, map_placeFrom, hCut,
    insertionPoint_eq_countP hSorted, List.map_append,
    List.countP_append, hFirst, List.map_cons,
    List.countP_cons_of_pos (by simpa using hFrom), hRest]

/- The search finds the segment that an offset lies in. -/
theorem covering?_of_cut
    (hCovers : a.Covers length)
    (hCut : a.segments = before ++ s :: after)
    (hFrom : s.start ≤ place)
    (hTo : place < s.stop) :
    covering? a.placed place =
      some (plainLength before, s) := by
  have hPlaced :
      a.placed =
        placeFrom 0 before ++ (plainLength before, s) ::
          placeFrom
            (plainLength before + s.contribution.length)
            after := by
    rw [placed, hCut, placeFrom_append, placeFrom,
      Nat.zero_add]
  have hLength : (placeFrom 0 before).length = before.length := by
    rw [← List.length_map (fun p => p.2),
      map_placeFrom (fun t => t), List.map_id']
  rw [covering?, insertionPoint_of_cut hCovers hCut hFrom hTo]
  simp [hPlaced, ← hLength]

/- Where a source offset is taken to. -/
theorem plainOffset_of_cut
    (hCovers : a.Covers length)
    (hCut : a.segments = before ++ s :: after)
    (hFrom : s.start ≤ place)
    (hTo : place < s.stop) :
    a.plainOffset place =
      .ok (plainWithin (plainLength before) s place) := by
  have hMem : s ∈ a.segments := by simp [hCut]
  have hBounds := hCovers.2.bounds_of_mem hMem
  have hLength := hCovers.1
  rw [plainOffset, if_neg (by omega), if_neg (by omega),
    covering?_of_cut hCovers hCut hFrom hTo]

/- The end of the source is taken to the end of the text. -/
theorem plainOffset_length
    (hCovers : a.Covers length) :
    a.plainOffset length = .ok a.plainText.length := by
  have hLength := hCovers.1
  rw [plainOffset, if_neg (by omega), if_pos hLength.symm]

end AnnotatedText

end ProseCheck

------------------------------------------------------------
-- Characters that Have Ended
------------------------------------------------------------

namespace ProseCheck

namespace AnnotatedText

/- A source offset is taken to the characters of its segment. -/
theorem plainWithin_bounds
    (start : Nat)
    {s : Segment}
    {place : Int}
    (hFrom : s.start ≤ place) :
    (start : Int) ≤ plainWithin start s place ∧
      plainWithin start s place ≤
        (start + s.contribution.length : Nat) := by
  unfold plainWithin Segment.contribution
  cases s.kind with
  | markup => simp
  | text =>
      dsimp only
      push_cast
      split
      · omega
      · split <;> omega

/-
  In a segment whose characters do not share their source, a
  character stands before a source offset where it ends at or
  before this offset.
-/
theorem lt_plainWithin_iff
    (start : Nat)
    {s : Segment}
    (hSharp :
      s.kind = .text →
        s.isIdentity = true ∨ s.content.length ≤ 1)
    {place : Int}
    (hTo : place < s.stop)
    {index : Nat}
    (hIndex : index < s.contribution.length) :
    (start + index : Int) < plainWithin start s place ↔
      s.originalEnd index ≤ place := by
  unfold Segment.contribution at hIndex
  cases hKind : s.kind with
  | markup => simp [hKind] at hIndex
  | text =>
      simp only [hKind] at hIndex
      unfold plainWithin Segment.originalEnd
      simp only [hKind]
      by_cases hIdentity : s.isIdentity = true
      · have hSpan := hIdentity
        rw [Segment.isIdentity, beq_iff_eq, Segment.span]
          at hSpan
        rw [if_pos hIdentity, if_pos hIdentity]
        omega
      -- the only character ends where the segment does
      · have hOne : s.content.length ≤ 1 := by
          simpa [hIdentity] using hSharp hKind
        rw [if_neg hIdentity, if_neg hIdentity,
          if_pos (by rw [Segment.span]; omega),
          if_pos (by omega)]
        omega

/- Characters of the first segments are characters of all. -/
theorem Yields.append_right
    {ss : List Segment}
    {n : Int}
    {offset start : Nat}
    {t : Segment}
    (hYields : Yields ⟨ss, n⟩ offset start t)
    (ts : List Segment)
    (m : Int) :
    Yields ⟨ss ++ ts, m⟩ offset start t := by
  rcases hYields with ⟨before, after, hCut, hInside⟩
  dsimp only at hCut
  exact ⟨before, after ++ ts, by simp [hCut], hInside⟩

/- The characters of the last segments come behind the others. -/
theorem Yields.append_left
    {ts : List Segment}
    {n : Int}
    {offset start : Nat}
    {t : Segment}
    (hYields : Yields ⟨ts, n⟩ offset start t)
    (ss : List Segment)
    (m : Int) :
    Yields ⟨ss ++ ts, m⟩ (plainLength ss + offset)
      (plainLength ss + start) t := by
  rcases hYields with
    ⟨before, after, hCut, hStart, hFrom, hTo⟩
  dsimp only at hCut
  refine ⟨ss ++ before, after, by simp [hCut], ?_, ?_, ?_⟩
  · simp [hStart, plainLength]
  · omega
  · omega

/- A plain character ends inside of its segment. -/
theorem Yields.end_bounds
    {a : AnnotatedText}
    {length : Nat}
    (hCovers : a.Covers length)
    {offset start : Nat}
    {t : Segment}
    (hYields : a.Yields offset start t) :
    t.start ≤ t.originalEnd (offset - start) ∧
      t.originalEnd (offset - start) ≤ t.stop := by
  have hSegment := hCovers.2.bounds_of_mem hYields.mem
  have hInside := hYields.bounds
  apply Segment.originalEnd_bounds hSegment.2.1
  · omega
  · omega

/-
  A plain character stands before the plain offset of a
  source offset where it ends at or before it: the characters
  of the segments before have ended, those of the segments
  behind have not begun.
-/
theorem lt_plainWithin_iff_of_cut
    {a : AnnotatedText}
    {length : Nat}
    (hCovers : a.Covers length)
    (hSharp :
      ∀ s ∈ a.segments, s.kind = .text →
        s.isIdentity = true ∨ s.content.length ≤ 1)
    {before after : List Segment}
    {s : Segment}
    (hCut : a.segments = before ++ s :: after)
    {place : Int}
    (hFrom : s.start ≤ place)
    (hTo : place < s.stop)
    {offset : Nat}
    (hOffset : offset < a.plainText.length) :
    ∃ stop : Int,
      a.originalOffset (offset + 1 : Nat) true = .ok stop ∧
        ((offset : Int) <
            plainWithin (plainLength before) s place ↔
          stop ≤ place) := by
  rcases a with ⟨segments, sourceLength⟩
  dsimp only at hCut hSharp
  subst hCut
  rcases hCovers.2.bounds_of_cut with ⟨hBefore, _, hAfter⟩
  have hWithin := plainWithin_bounds (plainLength before) hFrom
  rcases Nat.lt_or_ge offset (plainLength before) with
    hEarly | hBegun
  -- the character comes from a segment before
  · obtain ⟨start, t, hFound⟩ :=
      exists_yields ⟨before, 0⟩ hEarly
    have hYields :=
      hFound.append_right (s :: after) sourceLength
    have hEnd := hYields.end_bounds hCovers
    have hOrder := hBefore t hFound.mem
    refine ⟨_, hYields.originalOffset_end, ?_⟩
    omega
  rcases Nat.lt_or_ge offset
      (plainLength before + s.contribution.length) with
    hHere | hLate
  -- the character comes from the segment itself
  · have hYields :
        Yields ⟨before ++ s :: after, sourceLength⟩ offset
          (plainLength before) s :=
      ⟨before, after, rfl, rfl, hBegun, hHere⟩
    obtain ⟨index, rfl⟩ := Nat.exists_eq_add_of_le hBegun
    have hIff :=
      lt_plainWithin_iff (plainLength before)
        (hSharp s (by simp)) hTo
        (show index < s.contribution.length by omega)
    refine ⟨_, hYields.originalOffset_end, ?_⟩
    have hIndex :
        ((plainLength before + index : Nat) : Int) -
          (plainLength before : Nat) = index := by
      omega
    rw [hIndex, ← hIff, Int.natCast_add]
  -- the character comes from a segment behind
  · change offset < plainLength (before ++ s :: after)
      at hOffset
    rw [plainLength_append, plainLength_cons] at hOffset
    obtain ⟨later, rfl⟩ := Nat.exists_eq_add_of_le hLate
    obtain ⟨start, t, hFound⟩ :=
      exists_yields ⟨after, 0⟩
        (show later < plainLength after by omega)
    have hYields :=
      hFound.append_left (before ++ [s]) sourceLength
    have hSplit :
        before ++ [s] ++ after = before ++ s :: after := by
      simp
    have hStart :
        plainLength (before ++ [s]) =
          plainLength before + s.contribution.length := by
      simp [plainLength]
    rw [hSplit, hStart] at hYields
    have hEnd := hYields.end_bounds hCovers
    have hOrder := hAfter t hFound.mem
    refine ⟨_, hYields.originalOffset_end, ?_⟩
    omega

end AnnotatedText

end ProseCheck

------------------------------------------------------------
-- The Connection
------------------------------------------------------------

namespace ProseCheck

/- The numbers below a bound are counted by the bound. -/
theorem countP_range_of_lt_iff
    {p : Nat → Bool}
    {bound length : Nat}
    (hBound : bound ≤ length)
    (hIff : ∀ i < length, (p i = true ↔ i < bound)) :
    (List.range length).countP p = bound := by
  have hSplit : length = bound + (length - bound) := by omega
  rw [hSplit, List.range_add, List.countP_append]
  have hFirst :
      (List.range bound).countP p = bound := by
    conv_rhs => rw [← List.length_range (n := bound)]
    rw [List.countP_eq_length]
    intro i hMem
    have hLess := List.mem_range.mp hMem
    exact (hIff i (by omega)).mpr hLess
  have hRest :
      ((List.range (length - bound)).map
        (bound + ·)).countP p = 0 := by
    rw [List.countP_eq_zero]
    intro j hMem
    rcases List.mem_map.mp hMem with ⟨i, hRange, rfl⟩
    have hLess := List.mem_range.mp hRange
    rw [hIff (bound + i) (by omega)]
    omega
  rw [hFirst, hRest]
  rfl

namespace AnnotatedText

/- Whether the source of a plain character has ended. -/
def hasEnded
    (a : AnnotatedText)
    (place offset : Nat) : Bool :=
  match a.originalOffset (offset + 1 : Nat) true with
  | .ok stop => stop ≤ place
  | .error _ => false

/-
  The number of plain characters whose source ends at or
  before a source offset.
-/
def endedBy
    (a : AnnotatedText)
    (place : Nat) : Nat :=
  (List.range a.plainText.length).countP (a.hasEnded place)

variable
  {a : AnnotatedText}
  {length : Nat}

/-
  Every source offset is taken to a plain offset, which is
  above a plain character where its source has ended.
-/
theorem exists_plainOffset
    (hCovers : a.Covers length)
    (hSharp :
      ∀ s ∈ a.segments, s.kind = .text →
        s.isIdentity = true ∨ s.content.length ≤ 1)
    {place : Nat}
    (hPlace : place ≤ length) :
    ∃ plain : Nat,
      a.plainOffset place = .ok (plain : Int) ∧
        plain ≤ a.plainText.length ∧
        ∀ offset < a.plainText.length,
          ∃ stop : Nat,
            a.originalOffset (offset + 1 : Nat) true =
                .ok (stop : Int) ∧
              (offset < plain ↔ stop ≤ place) := by
  rcases Nat.lt_or_eq_of_le hPlace with hInside | hEnd
  · rcases hCovers.2.exists_cut (Int.natCast_nonneg place)
        (Int.ofNat_lt.mpr hInside) with
      ⟨before, s, after, hCut, hFrom, hTo⟩
    have hWithin :=
      plainWithin_bounds (plainLength before) hFrom
    have hLength := a.length_plainText
    rw [hCut, plainLength_append, plainLength_cons] at hLength
    obtain ⟨plain, hPlain⟩ :=
      Int.eq_ofNat_of_zero_le
        (show 0 ≤ plainWithin (plainLength before) s place by
          omega)
    refine ⟨plain, ?_, by omega, ?_⟩
    · rw [plainOffset_of_cut hCovers hCut hFrom hTo, hPlain]
    · intro offset hOffset
      rcases lt_plainWithin_iff_of_cut hCovers hSharp hCut
        hFrom hTo hOffset with ⟨stop, hOk, hIff⟩
      rcases originalOffset_bounds hCovers hOffset true with
        ⟨n, hNat, _⟩
      obtain rfl : stop = n :=
        Except.ok.inj (hOk.symm.trans hNat)
      refine ⟨n, hOk, ?_⟩
      rw [hPlain] at hIff
      omega
  -- at the end of the source every character has ended
  · subst hEnd
    refine ⟨_, plainOffset_length hCovers, Nat.le_refl _, ?_⟩
    intro offset hOffset
    rcases originalOffset_bounds hCovers hOffset true with
      ⟨stop, hOk, hStop⟩
    exact ⟨stop, hOk, by simp [hOffset, hStop]⟩

/-
  In a covering text whose segments have no characters that
  share their source, the two translations are a connection:
  a plain offset is at most that of a source offset exactly
  where its end in the source is at most the source offset.
  So the plain offset of a source offset counts the plain
  characters that have ended there, and goes up with it.
-/
theorem plainOffset_adjoint
    (hCovers : a.Covers length)
    (hSharp :
      ∀ s ∈ a.segments, s.kind = .text →
        s.isIdentity = true ∨ s.content.length ≤ 1) :
    (∀ offset place : Nat,
      0 < offset → offset ≤ a.plainText.length →
        place ≤ length →
          ∃ plain stop : Nat,
            a.plainOffset place = .ok (plain : Int) ∧
              a.originalOffset offset true =
                .ok (stop : Int) ∧
              (offset ≤ plain ↔ stop ≤ place)) ∧
    (∀ place ≤ length,
      a.plainOffset place = .ok (a.endedBy place : Int)) ∧
    (∀ first second : Nat,
      first ≤ second → second ≤ length →
        ∃ m n : Nat, a.plainOffset first = .ok (m : Int) ∧
          a.plainOffset second = .ok (n : Int) ∧ m ≤ n) := by
  refine ⟨?_, ?_, ?_⟩
  · intro offset place hPositive hOffset hPlace
    obtain ⟨previous, rfl⟩ :=
      Nat.exists_eq_add_one.mpr hPositive
    rcases exists_plainOffset hCovers hSharp hPlace with
      ⟨plain, hPlain, _, hEnds⟩
    rcases hEnds previous hOffset with ⟨stop, hStop, hIff⟩
    exact ⟨plain, stop, hPlain, hStop, hIff⟩
  · intro place hPlace
    rcases exists_plainOffset hCovers hSharp hPlace with
      ⟨plain, hPlain, hLe, hEnds⟩
    have hCount : a.endedBy place = plain := by
      refine countP_range_of_lt_iff hLe ?_
      intro offset hOffset
      rcases hEnds offset hOffset with ⟨stop, hStop, hIff⟩
      rw [hasEnded, hStop, hIff]
      simp
    rw [hPlain, hCount]
  · intro first second hOrder hSecond
    rcases exists_plainOffset hCovers hSharp
        (Nat.le_trans hOrder hSecond) with
      ⟨m, hFirst, hBound, hEndsFirst⟩
    rcases exists_plainOffset hCovers hSharp hSecond with
      ⟨n, hLast, _, hEndsLast⟩
    refine ⟨m, n, hFirst, hLast, ?_⟩
    -- the last character that has ended first has ended later
    cases m with
    | zero => exact Nat.zero_le n
    | succ previous =>
        rcases hEndsFirst previous hBound with
          ⟨stop, hStop, hIff⟩
        rcases hEndsLast previous hBound with
          ⟨again, hAgain, hIffLast⟩
        obtain rfl : stop = again :=
          Int.ofNat.inj
            (Except.ok.inj (hStop.symm.trans hAgain))
        have hEnded := hIff.mp (Nat.lt_succ_self previous)
        exact hIffLast.mpr (Nat.le_trans hEnded hOrder)

/-
  A break of two characters that is read as a space, a mark,
  a character without source characters, and a character
  that is written by its name.  In the middle of the break
  the space has not ended.
-/
theorem plainOffset_adjoint_folded :
    let a : AnnotatedText :=
      ⟨[⟨.text, 0, 1, ['a']⟩, ⟨.text, 1, 3, [' ']⟩,
        ⟨.markup, 3, 4, ['*']⟩, ⟨.text, 4, 4, ['!']⟩,
        ⟨.text, 4, 9, ['&']⟩], 9⟩
    a.Covers 9 ∧
      (∀ s ∈ a.segments, s.kind = .text →
        s.isIdentity = true ∨ s.content.length ≤ 1) ∧
      (∃ plain stop : Nat,
        a.plainOffset (2 : Nat) = .ok (plain : Int) ∧
          a.originalOffset (2 : Nat) true =
            .ok (stop : Int) ∧
          (2 ≤ plain ↔ stop ≤ 2)) ∧
      a.plainOffset (4 : Nat) = .ok (a.endedBy 4 : Int) ∧
      a.endedBy 4 = 3 ∧
      (∃ m n : Nat, a.plainOffset (2 : Nat) = .ok (m : Int) ∧
        a.plainOffset (4 : Nat) = .ok (n : Int) ∧ m ≤ n) := by
  intro a
  have hCovers : a.Covers 9 := by
    refine ⟨rfl, ?_⟩
    simp [Segment.Chain, a]
  have hSharp :
      ∀ s ∈ a.segments, s.kind = .text →
        s.isIdentity = true ∨ s.content.length ≤ 1 := by
    decide
  have hAdjoint := plainOffset_adjoint hCovers hSharp
  refine ⟨hCovers, hSharp, ?_, ?_, by decide, ?_⟩
  · exact hAdjoint.1 2 2 (by decide) (by decide) (by decide)
  · exact hAdjoint.2.1 4 (by decide)
  · exact hAdjoint.2.2 2 4 (by decide) (by decide)

end AnnotatedText

end ProseCheck

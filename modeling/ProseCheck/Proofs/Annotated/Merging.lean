import ProseCheck.Proofs.Annotated.Parts

/-
  This file shows that the merging of a builder cannot be
  seen.  The annotated text that is built, and the one made
  of the accepted segments as they are, have the same plain
  text, and take every offset to the same place, or refuse it
  with the same error.

  It is enough to look at two neighbours that are merged.  A
  plain character between them keeps its source, and a source
  offset inside of them keeps its plain offset.  A builder
  only ever merges neighbours, so nothing is seen of a run.

  Main declarations:
    * `AnnotatedText.Agrees`
    * `AnnotatedText.SharesPlace`
    * `AnnotatedText.agrees_merge`
    * `Builder.agrees_addAll`
    * `Builder.build_agrees_unmerged`
-/

------------------------------------------------------------
-- Texts that Agree
------------------------------------------------------------

namespace ProseCheck

namespace AnnotatedText

/-
  Two annotated texts cannot be told apart by what they say
  about the plain text and about offsets.
-/
structure Agrees
    (a b : AnnotatedText) : Prop where
  plainText_eq : a.plainText = b.plainText
  originalOffset_eq :
    ∀ (plain : Int) (isEnd : Bool),
      a.originalOffset plain isEnd =
        b.originalOffset plain isEnd
  plainOffset_eq :
    ∀ place : Int, a.plainOffset place = b.plainOffset place

/- A text agrees with itself. -/
theorem agrees_refl
    (a : AnnotatedText) :
    a.Agrees a :=
  ⟨rfl, fun _ _ => rfl, fun _ => rfl⟩

/- Two texts agree if both agree with a third one. -/
theorem Agrees.trans
    {a b c : AnnotatedText}
    (hFirst : a.Agrees b)
    (hSecond : b.Agrees c) :
    a.Agrees c where
  plainText_eq :=
    hFirst.plainText_eq.trans hSecond.plainText_eq
  originalOffset_eq := fun plain isEnd =>
    (hFirst.originalOffset_eq plain isEnd).trans
      (hSecond.originalOffset_eq plain isEnd)
  plainOffset_eq := fun place =>
    (hFirst.plainOffset_eq place).trans
      (hSecond.plainOffset_eq place)

/-
  A plain character has the same place in the source of both
  texts.  If it is the last one, it comes from segments that
  end at the same place, too.
-/
def SharesPlace
    (a b : AnnotatedText)
    (offset : Nat) : Prop :=
  ∃ start s other t,
    a.Yields offset start s ∧ b.Yields offset other t ∧
      s.originalStart (offset - start) =
        t.originalStart (offset - other) ∧
      s.originalEnd (offset - start) =
        t.originalEnd (offset - other) ∧
      (offset + 1 = a.plainText.length → s.stop = t.stop)

/-
  Texts whose characters all have the same places take each
  plain offset to the same place.
-/
theorem originalOffset_eq_of_places
    {a b : AnnotatedText}
    (hPlaces :
      ∀ offset < a.plainText.length, a.SharesPlace b offset)
    (hPlain : a.plainText = b.plainText)
    (plain : Int)
    (isEnd : Bool) :
    a.originalOffset plain isEnd =
      b.originalOffset plain isEnd := by
  by_cases hOut : plain < 0 ∨ a.plainText.length < plain
  · rw [originalOffset, originalOffset, if_pos hOut,
      if_pos (hPlain ▸ hOut), hPlain]
  rcases not_or.mp hOut with ⟨hFrom, hTo⟩
  obtain ⟨offset, rfl⟩ :=
    Int.eq_ofNat_of_zero_le (Int.not_lt.mp hFrom)
  have hOffset : offset ≤ a.plainText.length := by omega
  cases offset with
  | zero =>
      -- as an end, the front is no other place
      have hEnd :
          ∀ c : AnnotatedText,
            c.originalOffset (0 : Nat) isEnd =
              c.originalOffset (0 : Nat) := by
        intro c
        cases isEnd with
        | false => rfl
        | true => exact c.originalOffset_zero_end
      rw [hEnd a, hEnd b]
      rcases Nat.eq_zero_or_pos a.plainText.length with
        hEmpty | hSome
      · exact (originalOffset_of_empty hEmpty false).trans
          (originalOffset_of_empty (hPlain ▸ hEmpty)
            false).symm
      · rcases hPlaces 0 hSome with
          ⟨start, s, other, t, hFirst, hSecond, hStart, _, _⟩
        rw [hFirst.originalOffset_eq,
          hSecond.originalOffset_eq, hStart]
  | succ previous =>
      cases isEnd with
      | true =>
          rcases hPlaces previous hOffset with
            ⟨start, s, other, t, hFirst, hSecond, _, hEnd, _⟩
          rw [hFirst.originalOffset_end,
            hSecond.originalOffset_end, hEnd]
      | false =>
          rcases Nat.lt_or_eq_of_le hOffset with
            hInside | hLast
          · rcases hPlaces (previous + 1) hInside with
              ⟨start, s, other, t, hFirst, hSecond, hStart,
                _, _⟩
            rw [hFirst.originalOffset_eq,
              hSecond.originalOffset_eq, hStart]
          · rcases hPlaces previous hOffset with
              ⟨start, s, other, t, hFirst, hSecond, _, _,
                hStop⟩
            rw [hFirst.originalOffset_length hLast,
              hSecond.originalOffset_length
                (hPlain ▸ hLast), hStop hLast]

end AnnotatedText

end ProseCheck

------------------------------------------------------------
-- Merged Neighbours
------------------------------------------------------------

namespace ProseCheck

namespace Builder

variable {previous next : Segment}

/- Neighbours are merged if both are markup, or stand as text. -/
theorem mergeable_cases
    (hMerge : mergeable previous next = true) :
    (previous.kind = .markup ∧ next.kind = .markup) ∨
      (previous.kind = .text ∧ next.kind = .text ∧
        previous.isIdentity = true ∧
        next.isIdentity = true) := by
  cases hKind : next.kind with
  | markup =>
      rw [mergeable, Bool.and_eq_true, beq_iff_eq, hKind]
        at hMerge
      exact Or.inl ⟨hMerge.1, rfl⟩
  | text =>
      rcases (mergeable_iff_of_text hKind).mp hMerge with
        ⟨hSame, hFirst, hSecond⟩
      exact Or.inr ⟨hSame, rfl, hFirst, hSecond⟩

/- Merged neighbours add as many characters as before. -/
theorem length_contribution_merge
    (hMerge : mergeable previous next = true) :
    (merge previous next).contribution.length =
      previous.contribution.length +
        next.contribution.length := by
  rw [contribution_merge hMerge, List.length_append]

/-
  A source offset in the first of two merged neighbours keeps
  its plain offset.
-/
theorem plainWithin_merge_left
    (hMerge : mergeable previous next = true)
    (hJoin : next.start = previous.stop)
    (start : Nat)
    {place : Int}
    (hTo : place < previous.stop) :
    AnnotatedText.plainWithin start (merge previous next)
        place =
      AnnotatedText.plainWithin start previous place := by
  unfold AnnotatedText.plainWithin
  rcases mergeable_cases hMerge with
    ⟨hFirst, hSecond⟩ | ⟨hFirst, hSecond, hWhole, hRest⟩
  · simp [merge, hFirst, hSecond]
  · have hStop := Segment.stop_of_isIdentity hWhole
    have hMerged := isIdentity_merge hWhole hRest hJoin
    simp only [hFirst, hMerged, hWhole, if_true]
    simp only [merge, hSecond, List.length_append]
    omega

/-
  A source offset in the second of two merged neighbours has
  the plain offset that it has behind the first one.
-/
theorem plainWithin_merge_right
    (hMerge : mergeable previous next = true)
    (hJoin : next.start = previous.stop)
    (start : Nat)
    (place : Int) :
    AnnotatedText.plainWithin start (merge previous next)
        place =
      AnnotatedText.plainWithin
        (start + previous.contribution.length) next place := by
  unfold AnnotatedText.plainWithin Segment.contribution
  rcases mergeable_cases hMerge with
    ⟨hFirst, hSecond⟩ | ⟨hFirst, hSecond, hWhole, hRest⟩
  · simp [merge, hFirst, hSecond]
  · have hStop := Segment.stop_of_isIdentity hWhole
    have hMerged := isIdentity_merge hWhole hRest hJoin
    simp only [hFirst, hSecond, hMerged, hRest, if_true]
    simp only [merge, hSecond, List.length_append]
    omega

end Builder

/- Neighbours in a chain have no gap between them. -/
theorem Segment.Chain.join_of_cut
    {start stop : Int}
    {before after : List Segment}
    {previous next : Segment}
    (hChain :
      Chain start stop
        (before ++ previous :: next :: after)) :
    next.start = previous.stop := by
  rcases (chain_append_iff start stop before _).mp hChain with
    ⟨_, _, _, _, hNext, _⟩
  exact hNext

namespace AnnotatedText

variable
  {before after : List Segment}
  {n m : Int}

/-
  A character of the first segments has the same place
  whatever segments follow.
-/
theorem sharesPlace_before
    (ss ts : List Segment)
    {offset : Nat}
    (hBefore : offset < plainLength before) :
    SharesPlace ⟨before ++ ss, n⟩ ⟨before ++ ts, m⟩
      offset := by
  obtain ⟨start, t, hFound⟩ :=
    exists_yields ⟨before, 0⟩ hBefore
  exact ⟨start, t, start, t, hFound.append_right ss n,
    hFound.append_right ts m, rfl, rfl, fun _ => rfl⟩

/-
  A character of the last segments has the same place
  whatever segments of the same length go before.
-/
theorem sharesPlace_behind
    {ss ts : List Segment}
    (hLength : plainLength ss = plainLength ts)
    {offset : Nat}
    (hFrom : plainLength ss ≤ offset)
    (hTo : offset < plainLength (ss ++ after)) :
    SharesPlace ⟨ss ++ after, n⟩ ⟨ts ++ after, m⟩
      offset := by
  obtain ⟨later, rfl⟩ := Nat.exists_eq_add_of_le hFrom
  rw [plainLength_append] at hTo
  obtain ⟨start, t, hFound⟩ :=
    exists_yields ⟨after, 0⟩
      (show later < plainLength after by omega)
  have hSecond := hFound.append_left ts m
  rw [← hLength] at hSecond
  exact ⟨_, t, _, t, hFound.append_left ss n, hSecond, rfl,
    rfl, fun _ => rfl⟩

variable {previous next : Segment}

/-
  A character of two texts that are merged has the same place
  as before, since both stand character by character for
  their source.
-/
theorem sharesPlace_merged
    (hWhole : previous.isIdentity = true)
    (hRest : next.isIdentity = true)
    (hFirst : previous.kind = .text)
    (hSecond : next.kind = .text)
    (hJoin : next.start = previous.stop)
    {offset : Nat}
    (hFrom : plainLength before ≤ offset)
    (hTo :
      offset < plainLength before + previous.content.length +
        next.content.length) :
    SharesPlace ⟨before ++ previous :: next :: after, n⟩
      ⟨before ++ Builder.merge previous next :: after, m⟩
      offset := by
  have hStop := Segment.stop_of_isIdentity hWhole
  have hEnd := Segment.stop_of_isIdentity hRest
  have hMerged := Builder.isIdentity_merge hWhole hRest hJoin
  have hStart :
      (Builder.merge previous next).start = previous.start :=
    rfl
  have hPrevious :
      previous.contribution = previous.content := by
    rw [Segment.contribution, hFirst]
  have hNext : next.contribution = next.content := by
    rw [Segment.contribution, hSecond]
  have hYields :
      Yields
        ⟨before ++ Builder.merge previous next :: after, m⟩
        offset (plainLength before)
        (Builder.merge previous next) := by
    refine ⟨before, after, rfl, rfl, hFrom, ?_⟩
    simp only [Segment.contribution, Builder.merge, hSecond,
      List.length_append]
    omega
  by_cases hLeft :
      offset < plainLength before + previous.content.length
  · refine ⟨_, previous, _, _,
      ⟨before, next :: after, rfl, rfl, hFrom,
        hPrevious ▸ hLeft⟩, hYields, ?_, ?_, ?_⟩
    · rw [Segment.originalStart, Segment.originalStart,
        if_pos hWhole, if_pos hMerged, hStart]
    · rw [Segment.originalEnd, Segment.originalEnd,
        if_pos hWhole, if_pos hMerged, hStart]
    -- nothing is left for the second one then
    · intro hLast
      rw [length_plainText, plainLength_append,
        plainLength_cons, plainLength_cons, hPrevious, hNext]
        at hLast
      simp only [Builder.merge]
      omega
  · have hFront :
        plainLength (before ++ [previous]) =
          plainLength before + previous.content.length := by
      simp [plainLength, hPrevious]
    refine ⟨_, next, _, _,
      ⟨before ++ [previous], after, by simp, rfl, ?_, ?_⟩,
      hYields, ?_, ?_, fun _ => rfl⟩
    · omega
    · rw [hFront, hNext]
      omega
    · rw [Segment.originalStart, Segment.originalStart,
        if_pos hRest, if_pos hMerged, hFront, hStart]
      omega
    · rw [Segment.originalEnd, Segment.originalEnd,
        if_pos hRest, if_pos hMerged, hFront, hStart]
      omega

/-
  All characters have the same places when two neighbours are
  merged.
-/
theorem sharesPlace_merge
    (hJoin : next.start = previous.stop)
    (hMerge : Builder.mergeable previous next = true)
    {offset : Nat}
    (hOffset :
      offset <
        plainLength (before ++ previous :: next :: after)) :
    SharesPlace ⟨before ++ previous :: next :: after, n⟩
      ⟨before ++ Builder.merge previous next :: after, m⟩
      offset := by
  have hBoth := Builder.length_contribution_merge hMerge
  rcases Nat.lt_or_ge offset (plainLength before) with
    hEarly | hBegun
  · exact sharesPlace_before _ _ hEarly
  rcases Nat.lt_or_ge offset
      (plainLength before + previous.contribution.length +
        next.contribution.length) with
    hHere | hLate
  · rcases Builder.mergeable_cases hMerge with
      ⟨hFirst, hSecond⟩ | ⟨hFirst, hSecond, hWhole, hRest⟩
    · simp only [Segment.contribution, hFirst, hSecond,
        List.length_nil] at hHere
      omega
    · rw [Segment.contribution, Segment.contribution, hFirst,
        hSecond] at hHere
      exact sharesPlace_merged hWhole hRest hFirst hSecond
        hJoin hBegun hHere
  · have hLength :
        plainLength (before ++ [previous, next]) =
          plainLength
            (before ++ [Builder.merge previous next]) := by
      simp [plainLength, hBoth]
    have hFrom :
        plainLength (before ++ [previous, next]) ≤ offset := by
      simp only [plainLength_append, plainLength_cons]
      simp only [plainLength, List.flatMap_nil,
        List.length_nil] at hLate ⊢
      omega
    have hPlace :
        SharesPlace
          ⟨before ++ [previous, next] ++ after, n⟩
          ⟨before ++ [Builder.merge previous next] ++ after,
            m⟩ offset :=
      sharesPlace_behind hLength hFrom
        (by simpa using hOffset)
    simpa using hPlace

/- Merged neighbours add what they have added before. -/
theorem plainText_merge
    (hMerge : Builder.mergeable previous next = true) :
    plainText ⟨before ++ previous :: next :: after, n⟩ =
      plainText
        ⟨before ++ Builder.merge previous next :: after,
          m⟩ := by
  simp [plainText, Builder.contribution_merge hMerge]

variable {length : Nat}

/- A chain is a chain still when two neighbours are merged. -/
theorem covers_merge
    (hCovers :
      Covers ⟨before ++ previous :: next :: after, length⟩
        length) :
    Covers
      ⟨before ++ Builder.merge previous next :: after, length⟩
      length := by
  refine ⟨rfl, ?_⟩
  have hChain := hCovers.2
  dsimp only at hChain ⊢
  rw [Segment.chain_append_iff] at hChain ⊢
  rcases hChain with
    ⟨middle, hBefore, hStart, hOrder, hJoin, hNext, hAfter⟩
  refine ⟨middle, hBefore, hStart, ?_, hAfter⟩
  simp only [Builder.merge]
  omega

/-
  A source offset is taken to the same place when neighbours
  are merged: in a segment of its own it is left alone, and
  in one of the two its character is counted from the first.
-/
theorem plainOffset_merge
    (hCovers :
      Covers ⟨before ++ previous :: next :: after, length⟩
        length)
    (hMerge : Builder.mergeable previous next = true)
    (place : Int) :
    plainOffset ⟨before ++ previous :: next :: after, length⟩
        place =
      plainOffset
        ⟨before ++ Builder.merge previous next :: after,
          length⟩ place := by
  have hMerged := covers_merge hCovers
  by_cases hOut : place < 0 ∨ (length : Int) < place
  · rw [plainOffset, plainOffset, if_pos hOut, if_pos hOut]
  by_cases hEnd : place = length
  · rw [hEnd, plainOffset_length hCovers,
      plainOffset_length hMerged, plainText_merge hMerge]
  rcases (Segment.chain_append_iff 0 length before _).mp
    hCovers.2 with
    ⟨middle, hBefore, hStart, hOrder, hJoin, hNext, hAfter⟩
  by_cases hEarly : place < middle
  · rcases hBefore.exists_cut (Int.not_lt.mp
        (not_or.mp hOut).1) hEarly with
      ⟨first, t, rest, rfl, hFrom, hTo⟩
    have hCut :
        ∀ ss : List Segment,
          first ++ t :: rest ++ ss = first ++ t :: (rest ++ ss) :=
      fun ss => by simp
    rw [plainOffset_of_cut hCovers (hCut _) hFrom hTo,
      plainOffset_of_cut hMerged (hCut _) hFrom hTo]
  by_cases hLeft : place < previous.stop
  · rw [plainOffset_of_cut hCovers rfl (by omega) hLeft,
      plainOffset_of_cut hMerged rfl
        (by simp only [Builder.merge]; omega)
        (by simp only [Builder.merge]; omega),
      Builder.plainWithin_merge_left hMerge hJoin _ hLeft]
  by_cases hRight : place < next.stop
  · have hCut :
        before ++ previous :: next :: after =
          before ++ [previous] ++ next :: after := by
      simp
    rw [plainOffset_of_cut hCovers hCut (by omega) hRight,
      plainOffset_of_cut hMerged rfl
        (by simp only [Builder.merge]; omega) hRight,
      Builder.plainWithin_merge_right hMerge hJoin]
    simp [plainLength]
  · rcases hAfter.exists_cut (Int.not_lt.mp hRight)
        (show place < length by omega) with
      ⟨first, t, rest, rfl, hFrom, hTo⟩
    have hCut :
        ∀ ss : List Segment,
          before ++ (ss ++ (first ++ t :: rest)) =
            before ++ (ss ++ first) ++ t :: rest :=
      fun ss => by simp
    rw [plainOffset_of_cut hCovers (hCut [previous, next])
        hFrom hTo,
      plainOffset_of_cut hMerged
        (hCut [Builder.merge previous next]) hFrom hTo]
    simp [plainLength, Builder.contribution_merge hMerge]

/- A text agrees with the one with two neighbours merged. -/
theorem agrees_merge
    (hCovers :
      Covers ⟨before ++ previous :: next :: after, length⟩
        length)
    (hMerge : Builder.mergeable previous next = true) :
    Agrees ⟨before ++ previous :: next :: after, length⟩
      ⟨before ++ Builder.merge previous next :: after,
        length⟩ where
  plainText_eq := plainText_merge hMerge
  originalOffset_eq :=
    originalOffset_eq_of_places
      (fun _ hOffset =>
        sharesPlace_merge hCovers.2.join_of_cut hMerge hOffset)
      (plainText_merge hMerge)
  plainOffset_eq := plainOffset_merge hCovers hMerge

end AnnotatedText

end ProseCheck

------------------------------------------------------------
-- Runs of a Builder
------------------------------------------------------------

namespace ProseCheck

/-
  Whether a builder that accepts a segment holds it
  afterwards.  One with neither span nor content is dropped.
-/
def Segment.isKept
    (s : Segment) : Bool :=
  !(s.span == 0 && s.content.isEmpty)

/-
  The annotated text made of accepted segments as they are,
  but for those that are dropped.
-/
def AnnotatedText.unmerged
    (ss : List Segment)
    (length : Int) : AnnotatedText :=
  ⟨ss.filter Segment.isKept, length⟩

namespace Builder

variable {b next : Builder}

/- A builder that accepts a segment pushes or drops it. -/
theorem eq_of_add
    {s : Segment}
    (hAdd : b.add s = .ok next) :
    next = if s.isKept = true then ⟨push s b.recent⟩ else b := by
  rw [add_eq] at hAdd
  split at hAdd
  · cases hAdd
  split at hAdd
  · cases hAdd
  split at hAdd
  · rename_i hEmpty
    cases hAdd
    simp [Segment.isKept, hEmpty]
  · rename_i hSome
    cases hAdd
    have hKept : s.isKept = true := by
      simpa [Segment.isKept] using not_and_or.mp hSome
    rw [if_pos hKept]

/- The accepted segments that are kept go on from the others. -/
theorem chain_kept
    {ss : List Segment}
    (hAdd : b.addAll ss = .ok next) :
    Segment.Chain b.reached next.reached
      (ss.filter Segment.isKept) := by
  induction ss generalizing b with
  | nil =>
      cases hAdd
      rfl
  | cons s ss ih =>
      rcases (addAll_cons_eq_ok_iff s ss).mp hAdd with
        ⟨middle, hFirst, hRest⟩
      have hLater := ih hRest
      rcases add_cases hFirst with ⟨hStart, hOrder, _⟩
      have hMiddle := eq_of_add hFirst
      by_cases hKept : s.isKept = true
      · rw [if_pos hKept] at hMiddle
        rw [hMiddle, reached_push] at hLater
        rw [List.filter_cons_of_pos hKept]
        exact ⟨hStart, hOrder, hLater⟩
      · rw [if_neg hKept] at hMiddle
        rw [hMiddle] at hLater
        rw [List.filter_cons_of_neg hKept]
        exact hLater

/- A segment that is pushed is not seen to be merged. -/
theorem agrees_push
    {older rest : List Segment}
    {s : Segment}
    {length : Nat}
    (hCovers :
      AnnotatedText.Covers
        ⟨older.reverse ++ s :: rest, length⟩ length) :
    AnnotatedText.Agrees
      ⟨older.reverse ++ s :: rest, length⟩
      ⟨(push s older).reverse ++ rest, length⟩ := by
  cases older with
  | nil => exact AnnotatedText.agrees_refl _
  | cons previous older =>
      rw [push]
      split
      · rename_i hMerge
        rw [List.reverse_cons, List.append_assoc]
          at hCovers ⊢
        rw [List.reverse_cons, List.append_assoc]
        exact AnnotatedText.agrees_merge hCovers hMerge
      · rw [List.reverse_cons (a := s), List.append_assoc]
        exact AnnotatedText.agrees_refl _

/-
  What a builder holds after a run agrees with what it held
  before and the segments that it has kept since.
-/
theorem agrees_addAll
    (hSound : b.Sound)
    {ss : List Segment}
    (hAdd : b.addAll ss = .ok next)
    {length : Nat}
    (hReached : next.reached = length) :
    AnnotatedText.Agrees
      ⟨b.segments ++ ss.filter Segment.isKept, length⟩
      ⟨next.segments, length⟩ := by
  induction ss generalizing b with
  | nil =>
      cases hAdd
      rw [List.filter_nil, List.append_nil]
      exact AnnotatedText.agrees_refl _
  | cons s ss ih =>
      have hChain := chain_kept hAdd
      rw [hReached] at hChain
      rcases (addAll_cons_eq_ok_iff s ss).mp hAdd with
        ⟨middle, hFirst, hRest⟩
      rcases add_cases hFirst with ⟨hStart, hOrder, _⟩
      rcases add_of_start hSound hStart hOrder with
        ⟨other, hOther, hMiddle, _⟩
      obtain rfl : middle = other :=
        Except.ok.inj (hFirst.symm.trans hOther)
      have hLater := ih hMiddle hRest
      have hSame := eq_of_add hFirst
      by_cases hKept : s.isKept = true
      · rw [if_pos hKept] at hSame
        rw [hSame] at hLater
        rw [List.filter_cons_of_pos hKept] at hChain ⊢
        have hCovers :
            AnnotatedText.Covers
              ⟨b.segments ++ s :: ss.filter Segment.isKept,
                length⟩ length :=
          ⟨rfl, (Segment.chain_append_iff 0 length _ _).mpr
            ⟨b.reached, hSound, hChain⟩⟩
        exact (agrees_push hCovers).trans hLater
      · rw [if_neg hKept] at hSame
        rw [hSame] at hLater
        rw [List.filter_cons_of_neg hKept]
        exact hLater

/-
  The merging of a builder is invisible.  Whatever segments
  it accepts, the text that is built has the plain text of
  the segments as they were accepted, and the same offsets
  in both directions, with the same offsets out of range.
-/
theorem build_agrees_unmerged
    {ss : List Segment}
    (hAdd : empty.addAll ss = .ok b)
    {length : Int}
    {a : AnnotatedText}
    (hBuild : b.build length = .ok a) :
    a.plainText =
        (AnnotatedText.unmerged ss length).plainText ∧
      (∀ (plain : Int) (isEnd : Bool),
        a.originalOffset plain isEnd =
          (AnnotatedText.unmerged ss length).originalOffset
            plain isEnd) ∧
      ∀ place : Int,
        a.plainOffset place =
          (AnnotatedText.unmerged ss length).plainOffset
            place := by
  have hSound := sound_empty.of_addAll hAdd
  have hReached :
      b.reached = length ∧ a = ⟨b.segments, length⟩ := by
    rw [build] at hBuild
    split at hBuild
    · cases hBuild
    · rename_i hReached
      cases hBuild
      exact ⟨not_not.mp hReached, rfl⟩
  rcases hReached with ⟨rfl, rfl⟩
  obtain ⟨n, hLength⟩ :=
    Int.eq_ofNat_of_zero_le hSound.reached_nonneg
  have hAgrees := agrees_addAll sound_empty hAdd hLength
  rw [hLength]
  exact ⟨hAgrees.plainText_eq.symm,
    fun plain isEnd =>
      (hAgrees.originalOffset_eq plain isEnd).symm,
    fun place => (hAgrees.plainOffset_eq place).symm⟩

/-
  Two characters with an empty text between them, two marks,
  of which one has no source, a text without source and a
  source without text, and a character that is written by its
  name between others.  Ten segments are kept, and seven are
  left when they are merged.
-/
theorem build_agrees_unmerged_mixed :
    let ss : List Segment :=
      [⟨.text, 0, 1, ['a']⟩, ⟨.text, 1, 1, []⟩,
        ⟨.text, 1, 2, ['b']⟩, ⟨.markup, 2, 3, ['*']⟩,
        ⟨.markup, 3, 3, ['^']⟩, ⟨.text, 3, 3, ['!']⟩,
        ⟨.text, 3, 5, []⟩, ⟨.text, 5, 6, ['c']⟩,
        ⟨.text, 6, 7, ['d']⟩, ⟨.text, 7, 12, ['&']⟩,
        ⟨.text, 12, 13, ['e']⟩]
    let direct := AnnotatedText.unmerged ss 13
    ∃ b a, empty.addAll ss = .ok b ∧ b.build 13 = .ok a ∧
      a.segments.length = 7 ∧ direct.segments.length = 10 ∧
      a.plainText = direct.plainText ∧
      a.originalOffset 4 true = direct.originalOffset 4 true ∧
      direct.originalOffset 4 true = .ok 6 ∧
      a.originalOffset 8 = direct.originalOffset 8 ∧
      a.plainOffset 6 = direct.plainOffset 6 ∧
      direct.plainOffset 6 = .ok 4 := by
  intro ss direct
  let b : Builder :=
    ⟨[⟨.text, 12, 13, ['e']⟩, ⟨.text, 7, 12, ['&']⟩,
      ⟨.text, 5, 7, ['c', 'd']⟩, ⟨.text, 3, 5, []⟩,
      ⟨.text, 3, 3, ['!']⟩, ⟨.markup, 2, 3, ['*', '^']⟩,
      ⟨.text, 0, 2, ['a', 'b']⟩]⟩
  have hAdd : empty.addAll ss = .ok b := rfl
  have hBuild : b.build 13 = .ok ⟨b.segments, 13⟩ := rfl
  have hAgrees := build_agrees_unmerged hAdd hBuild
  exact ⟨_, _, hAdd, hBuild, rfl, rfl, hAgrees.1,
    hAgrees.2.1 4 true, by decide, hAgrees.2.1 8 false,
    hAgrees.2.2 6, by decide⟩

end Builder

end ProseCheck

import ProseCheck.Proofs.Annotated.PlainOffsets

/-
  This file compares where plain offsets are taken to.  Plain
  characters come from the segments in the order of the
  source, so in a text that covers its source the offsets
  that come out go up.

  A plain character ends before the next one begins, if no
  segment has more characters than it covers.  It begins
  before it ends, if its segment covers anything.

  Main declarations:
    * `AnnotatedText.Yields.eq_or_before`
    * `AnnotatedText.Yields.edge_le`
    * `AnnotatedText.originalOffset_mono`
    * `AnnotatedText.originalOffset_end_le`
    * `AnnotatedText.Yields.meets_iff`
-/

------------------------------------------------------------
-- Characters of a Segment
------------------------------------------------------------

namespace ProseCheck

namespace Segment

variable
  {s : Segment}
  {i j : Int}

/- Later characters of a segment do not begin earlier. -/
theorem originalStart_mono
    (s : Segment)
    (hOrder : i ≤ j) :
    s.originalStart i ≤ s.originalStart j := by
  unfold originalStart
  split <;> omega

/- Later characters of a segment do not end earlier. -/
theorem originalEnd_mono
    (s : Segment)
    (hOrder : i ≤ j) :
    s.originalEnd i ≤ s.originalEnd j := by
  unfold originalEnd
  split
  · omega
  · split <;> split <;> omega

/- A character of a segment does not begin behind its end. -/
theorem originalStart_le_originalEnd
    (hSpan : s.start ≤ s.stop)
    (hOrder : i ≤ j) :
    s.originalStart i ≤ s.originalEnd j := by
  unfold originalStart originalEnd span
  split
  · omega
  · split <;> omega

/-
  In a segment that covers anything, a character begins
  before it ends.
-/
theorem originalStart_lt_originalEnd
    (hSpan : s.start < s.stop)
    (hOrder : i ≤ j) :
    s.originalStart i < s.originalEnd j := by
  unfold originalStart originalEnd span
  split
  · omega
  · split <;> omega

/-
  In a segment that has no more characters than it covers, a
  character ends before a later one begins.
-/
theorem originalEnd_le_originalStart
    (hFit : (s.content.length : Int) ≤ s.span)
    (hOrder : i < j)
    (hInside : j < s.content.length) :
    s.originalEnd i ≤ s.originalStart j := by
  unfold originalStart originalEnd
  unfold span at hFit ⊢
  split
  · omega
  · rename_i hIdentity
    have hLonger : (s.content.length : Int) ≠ s.stop - s.start := by
      simpa [isIdentity, span] using hIdentity
    split <;> omega

end Segment

end ProseCheck

------------------------------------------------------------
-- Characters of a Text
------------------------------------------------------------

namespace ProseCheck

namespace AnnotatedText

variable
  {a : AnnotatedText}
  {length : Nat}

/- A segment that adds something yields its first character. -/
theorem exists_yields_of_mem
    {s : Segment}
    (hMem : s ∈ a.segments)
    (hTextual : s.isTextual = true) :
    ∃ start, a.Yields start start s := by
  rcases List.append_of_mem hMem with ⟨before, after, hCut⟩
  have hPositive := (Segment.isTextual_iff s).mp hTextual
  exact ⟨_, before, after, hCut, rfl, Nat.le_refl _,
    Nat.lt_add_of_pos_right hPositive⟩

/- A segment that yields a character adds something. -/
theorem Yields.isTextual
    {offset start : Nat}
    {s : Segment}
    (hYields : a.Yields offset start s) :
    s.isTextual = true := by
  rcases hYields with ⟨_, _, _, _, hFrom, hTo⟩
  rw [Segment.isTextual_iff]
  omega

variable
  {m n first second : Nat}
  {s t : Segment}

/-
  Two plain characters come from the same segment, or the
  earlier one from a segment that ends where or before the
  segment of the later one starts.
-/
theorem Yields.eq_or_before
    (hCovers : a.Covers length)
    (hFirst : a.Yields m first s)
    (hSecond : a.Yields n second t)
    (hOrder : m ≤ n) :
    (first = second ∧ s = t) ∨ s.stop ≤ t.start := by
  rcases hFirst with
    ⟨before, after, hCut, hStart, hFrom, hTo⟩
  rcases hSecond with
    ⟨before', after', hCut', hStart', hFrom', hTo'⟩
  have hChain := hCovers.2
  rcases List.append_eq_append_iff.mp (hCut.symm.trans hCut')
    with ⟨between, hBefore, hRest⟩ | ⟨between, hBefore, hRest⟩
  · cases between with
    | nil =>
        rw [List.nil_append] at hRest
        rw [List.append_nil] at hBefore
        rw [hStart, hStart', hBefore]
        exact Or.inl ⟨rfl, (List.cons.inj hRest).1⟩
    | cons u between =>
        rw [hCut] at hChain
        have hMem : t ∈ after := by
          rw [(List.cons.inj hRest).2]
          simp
        exact Or.inr (hChain.bounds_of_cut.2.2 t hMem)
  -- the later character would come from an earlier segment
  · cases between with
    | nil =>
        rw [List.nil_append] at hRest
        rw [List.append_nil] at hBefore
        rw [hStart, hStart', hBefore]
        exact Or.inl ⟨rfl, (List.cons.inj hRest).1.symm⟩
    | cons u between =>
        have hSame := (List.cons.inj hRest).1
        rw [hBefore, ← hSame, plainLength_append,
          plainLength_cons] at hStart
        omega

/-
  A function gives an edge of a character, as its start or its
  end, if what it gives lies between the ends of the segment.
-/
def IsEdge
    (f : Segment → Int → Int) : Prop :=
  ∀ {u : Segment} {i : Int}, u.start ≤ u.stop →
    0 ≤ i → i < u.content.length →
      u.start ≤ f u i ∧ f u i ≤ u.stop

/- The start of a character is an edge of it. -/
theorem isEdge_originalStart :
    IsEdge Segment.originalStart :=
  fun hOrder hFrom hTo =>
    Segment.originalStart_bounds hOrder hFrom hTo

/- The end of a character is an edge of it. -/
theorem isEdge_originalEnd :
    IsEdge Segment.originalEnd :=
  fun hOrder hFrom hTo =>
    Segment.originalEnd_bounds hOrder hFrom hTo

/- The end of its segment may count as an edge as well. -/
theorem isEdge_stop :
    IsEdge (fun u _ => u.stop) :=
  fun hOrder _ _ => ⟨hOrder, Int.le_refl _⟩

/-
  An edge of a plain character is at or before an edge of a
  later one, if this is so within one segment.
-/
theorem Yields.edge_le
    {f g : Segment → Int → Int}
    (hF : IsEdge f)
    (hG : IsEdge g)
    (hCovers : a.Covers length)
    (hFirst : a.Yields m first s)
    (hSecond : a.Yields n second t)
    (hOrder : m ≤ n)
    (hWithin :
      n < first + s.content.length →
        f s (m - first) ≤ g s (n - first)) :
    f s (m - first) ≤ g t (n - second) := by
  have hInside := hFirst.bounds
  have hInside' := hSecond.bounds
  rcases hFirst.eq_or_before hCovers hSecond hOrder with
    ⟨rfl, rfl⟩ | hBefore
  · exact hWithin hInside'.2
  · have hStop := (hF
      (hCovers.2.bounds_of_mem hFirst.mem).2.1
      (i := m - first) (by omega) (by omega)).2
    have hStart := (hG
      (hCovers.2.bounds_of_mem hSecond.mem).2.1
      (i := n - second) (by omega) (by omega)).1
    exact Int.le_trans hStop (Int.le_trans hBefore hStart)

end AnnotatedText

end ProseCheck

------------------------------------------------------------
-- Order of Source Offsets
------------------------------------------------------------

namespace ProseCheck

namespace AnnotatedText

variable
  {a : AnnotatedText}
  {length : Nat}
  {m n : Nat}

/- No text segment has more characters than it covers. -/
def Fits
    (a : AnnotatedText) : Prop :=
  ∀ s ∈ a.segments, s.kind = .text →
    (s.content.length : Int) ≤ s.span

instance
    (a : AnnotatedText) :
    Decidable a.Fits := by
  unfold Fits
  infer_instance

/- The segment of a plain character is text. -/
theorem Yields.kind_eq
    {start : Nat}
    {s : Segment}
    (hYields : a.Yields n start s) :
    s.kind = .text := by
  have hTextual := hYields.isTextual
  cases hKind : s.kind with
  | text => rfl
  | markup =>
      simp [Segment.isTextual, Segment.contribution, hKind]
        at hTextual

/-
  An edge of a plain character is at or before the place that
  a later plain offset is taken to, if it is at or before the
  edges of later characters of its segment.
-/
theorem Yields.edge_le_originalOffset
    {f : Segment → Int → Int}
    (hEdge : IsEdge f)
    (hCovers : a.Covers length)
    {first : Nat}
    {s : Segment}
    (hFirst : a.Yields m first s)
    (hOrder : m < n)
    (hLength : n ≤ a.plainText.length)
    (isEnd : Bool)
    (hStart :
      ∀ i j : Int, i < j → j < s.content.length →
        f s i ≤ s.originalStart j)
    (hEnd : ∀ i j : Int, i ≤ j → f s i ≤ s.originalEnd j)
    {place : Int}
    (hPlace : a.originalOffset n isEnd = .ok place) :
    f s (m - first) ≤ place := by
  rcases a.originalOffset_cases hLength isEnd with
    ⟨rfl, _⟩ | ⟨second, t, hSecond, hOk⟩ |
      ⟨previous, second, t, rfl, hSecond, hOk⟩
  · omega
  · obtain rfl := Except.ok.inj (hPlace.symm.trans hOk)
    refine hFirst.edge_le hEdge isEdge_originalStart hCovers
      hSecond (Nat.le_of_lt hOrder) ?_
    intro hWithin
    exact hStart _ _ (by omega) (by omega)
  · have hBefore : m ≤ previous := Nat.le_of_lt_succ hOrder
    rcases hOk with hOk | ⟨_, hOk⟩
    · obtain rfl := Except.ok.inj (hPlace.symm.trans hOk)
      refine hFirst.edge_le hEdge isEdge_originalEnd hCovers
        hSecond hBefore ?_
      intro _
      exact hEnd _ _ (by omega)
    · obtain rfl := Except.ok.inj (hPlace.symm.trans hOk)
      have hInside := hFirst.bounds
      refine hFirst.edge_le hEdge isEdge_stop hCovers hSecond
        hBefore ?_
      intro _
      exact (hEdge (hCovers.2.bounds_of_mem hFirst.mem).2.1
        (by omega) (by omega)).2

/-
  A plain character ends at or before the place that a later
  plain offset is taken to.
-/
theorem Yields.end_le_originalOffset
    (hCovers : a.Covers length)
    (hFits : a.Fits)
    {first : Nat}
    {s : Segment}
    (hFirst : a.Yields m first s)
    (hOrder : m < n)
    (hLength : n ≤ a.plainText.length)
    (isEnd : Bool)
    {place : Int}
    (hPlace : a.originalOffset n isEnd = .ok place) :
    s.originalEnd (m - first) ≤ place := by
  have hFit := hFits s hFirst.mem hFirst.kind_eq
  refine hFirst.edge_le_originalOffset isEdge_originalEnd
    hCovers hOrder hLength isEnd ?_ ?_ hPlace
  · intro i j hLess hInside
    exact Segment.originalEnd_le_originalStart hFit hLess
      hInside
  · intro i j hLe
    exact s.originalEnd_mono hLe

/-
  Where a plain offset is taken to, as a start or as an end,
  is at or before the place of every later one.
-/
theorem originalOffset_le_of_lt
    (hCovers : a.Covers length)
    (hFits : a.Fits)
    (hOrder : m < n)
    (hLength : n ≤ a.plainText.length)
    (isEnd isEnd' : Bool)
    {x y : Int}
    (hFirst : a.originalOffset m isEnd = .ok x)
    (hSecond : a.originalOffset n isEnd' = .ok y) :
    x ≤ y := by
  have hBefore : m ≤ a.plainText.length := by omega
  rcases a.originalOffset_cases hBefore isEnd with
    ⟨rfl, hOk⟩ | ⟨start, s, hYields, hOk⟩ |
      ⟨previous, start, s, rfl, hYields, hOk⟩
  · rcases originalOffset_bounds hCovers hLength isEnd' with
      ⟨place, hPlace, _⟩
    obtain rfl := Except.ok.inj (hFirst.symm.trans hOk)
    obtain rfl := Except.ok.inj (hSecond.symm.trans hPlace)
    exact Int.natCast_nonneg place
  · obtain rfl := Except.ok.inj (hFirst.symm.trans hOk)
    have hSpan := (hCovers.2.bounds_of_mem hYields.mem).2.1
    refine hYields.edge_le_originalOffset isEdge_originalStart
      hCovers hOrder hLength isEnd' ?_ ?_ hSecond
    · intro i j hLess _
      exact s.originalStart_mono (Int.le_of_lt hLess)
    · intro i j hLe
      exact Segment.originalStart_le_originalEnd hSpan hLe
  · rcases hOk with hOk | ⟨hEnd, _⟩
    · obtain rfl := Except.ok.inj (hFirst.symm.trans hOk)
      exact hYields.end_le_originalOffset hCovers hFits
        (Nat.lt_of_succ_lt hOrder) hLength isEnd' hSecond
    · omega

/-
  Plain offsets are taken to the source in their order, as
  starts and as ends, and to nowhere behind the source.
-/
theorem originalOffset_mono
    (hCovers : a.Covers length)
    (hFits : a.Fits)
    (isEnd : Bool)
    (hOrder : m ≤ n)
    (hLength : n ≤ a.plainText.length) :
    ∃ x y : Nat,
      a.originalOffset m isEnd = .ok (x : Int) ∧
        a.originalOffset n isEnd = .ok (y : Int) ∧
        x ≤ y ∧ y ≤ length := by
  rcases originalOffset_bounds hCovers
    (Nat.le_trans hOrder hLength) isEnd with ⟨x, hFirst, _⟩
  rcases originalOffset_bounds hCovers hLength isEnd with
    ⟨y, hSecond, hTo⟩
  refine ⟨x, y, hFirst, hSecond, ?_, hTo⟩
  rcases Nat.lt_or_eq_of_le hOrder with hLess | rfl
  · have hLe := originalOffset_le_of_lt hCovers hFits hLess
      hLength isEnd isEnd hFirst hSecond
    omega
  · have hSame := Except.ok.inj (hFirst.symm.trans hSecond)
    omega

/-
  As the end of a range a plain offset is taken to the place
  that it has as a start, or to one before it.
-/
theorem originalOffset_end_le
    (hCovers : a.Covers length)
    (hFits : a.Fits)
    (hLength : n ≤ a.plainText.length) :
    ∃ x y : Nat,
      a.originalOffset n true = .ok (x : Int) ∧
        a.originalOffset n = .ok (y : Int) ∧ x ≤ y := by
  rcases originalOffset_bounds hCovers hLength true with
    ⟨x, hEnd, _⟩
  rcases originalOffset_bounds hCovers hLength false with
    ⟨y, hStart, _⟩
  refine ⟨x, y, hEnd, hStart, ?_⟩
  cases n with
  | zero =>
      have hSame := a.originalOffset_zero_end
      rw [Int.natCast_zero] at hEnd hStart
      rw [hEnd, hStart] at hSame
      have hEq := Except.ok.inj hSame
      omega
  | succ previous =>
      rcases a.exists_yields hLength with
        ⟨start, s, hYields⟩
      have hPlace := Except.ok.inj
        (hEnd.symm.trans hYields.originalOffset_end)
      have hLe := hYields.end_le_originalOffset hCovers hFits
        (Nat.lt_succ_self previous) hLength false hStart
      omega

end AnnotatedText

end ProseCheck

------------------------------------------------------------
-- Stretches of the Plain Text
------------------------------------------------------------

namespace ProseCheck

namespace Segment

variable
  {s : Segment}
  {i : Int}

/- A source offset is that of a character of the segment. -/
def Spans
    (s : Segment)
    (place : Int) : Prop :=
  s.start ≤ place ∧ place < s.stop

/- A character begins at one of the segment. -/
theorem spans_originalStart
    (hSpan : s.start < s.stop)
    (hFrom : 0 ≤ i)
    (hTo : i < s.content.length) :
    s.Spans (s.originalStart i) := by
  unfold Spans originalStart
  split
  · rename_i hIdentity
    rw [isIdentity_iff] at hIdentity
    omega
  · unfold span
    omega

/- A character ends with one of the segment. -/
theorem spans_originalEnd
    (hSpan : s.start < s.stop)
    (hFrom : 0 ≤ i)
    (hTo : i < s.content.length) :
    s.Spans (s.originalEnd i - 1) := by
  unfold Spans originalEnd
  split
  · rename_i hIdentity
    rw [isIdentity_iff] at hIdentity
    omega
  · split <;> omega

end Segment

namespace AnnotatedText

variable
  {a : AnnotatedText}
  {length : Nat}
  {m n first second : Nat}
  {s t : Segment}

/- Each segment that adds something covers something. -/
def Grounded
    (a : AnnotatedText) : Prop :=
  ∀ s ∈ a.segments, s.isTextual = true → s.start < s.stop

instance
    (a : AnnotatedText) :
    Decidable a.Grounded := by
  unfold Grounded
  infer_instance

/- A plain character begins in the segment it comes from. -/
theorem Yields.spans_start
    (hGrounded : a.Grounded)
    (hYields : a.Yields m first s) :
    s.Spans (s.originalStart (m - first)) := by
  have hInside := hYields.bounds
  exact Segment.spans_originalStart
    (hGrounded s hYields.mem hYields.isTextual) (by omega)
    (by omega)

/- It ends in this segment, too. -/
theorem Yields.spans_end
    (hGrounded : a.Grounded)
    (hYields : a.Yields m first s) :
    s.Spans (s.originalEnd (m - first) - 1) := by
  have hInside := hYields.bounds
  exact Segment.spans_originalEnd
    (hGrounded s hYields.mem hYields.isTextual) (by omega)
    (by omega)

/- A plain character begins before any later one ends. -/
theorem Yields.start_lt_end
    (hCovers : a.Covers length)
    (hGrounded : a.Grounded)
    (hFirst : a.Yields m first s)
    (hSecond : a.Yields n second t)
    (hOrder : m ≤ n) :
    s.originalStart (m - first) <
      t.originalEnd (n - second) := by
  rcases hFirst.eq_or_before hCovers hSecond hOrder with
    ⟨rfl, rfl⟩ | hBefore
  · exact Segment.originalStart_lt_originalEnd
      (hGrounded s hFirst.mem hFirst.isTextual) (by omega)
  · have hStart := hFirst.spans_start hGrounded
    have hEnd := hSecond.spans_end hGrounded
    unfold Segment.Spans at hStart hEnd
    omega

/-
  The segments that add something and meet the source between
  the start of one plain character and the end of another are
  those that the characters from the one to the other come
  from.
-/
theorem Yields.meets_iff
    (hCovers : a.Covers length)
    (hGrounded : a.Grounded)
    (hFirst : a.Yields m first s)
    (hSecond : a.Yields n second t)
    (hOrder : m ≤ n)
    {u : Segment}
    (hMem : u ∈ a.segments)
    (hTextual : u.isTextual = true) :
    (∃ place, s.originalStart (m - first) ≤ place ∧
        place < t.originalEnd (n - second) ∧ u.Spans place) ↔
      ∃ k start, m ≤ k ∧ k ≤ n ∧ a.Yields k start u := by
  have hLess :=
    hFirst.start_lt_end hCovers hGrounded hSecond hOrder
  have hStart := hFirst.spans_start hGrounded
  have hEnd := hSecond.spans_end hGrounded
  constructor
  · rintro ⟨place, hFrom, hTo, hPlace⟩
    rcases exists_yields_of_mem hMem hTextual with
      ⟨k, hYields⟩
    rcases Nat.lt_or_ge m k with hLater | hEarlier
    -- the segment begins behind the first character
    · by_cases hInside : k ≤ n
      · exact ⟨k, k, Nat.le_of_lt hLater, hInside, hYields⟩
      · rcases hSecond.eq_or_before hCovers hYields
            (by omega) with ⟨rfl, _⟩ | hBehind
        · have hBegun := hSecond.bounds
          omega
        · unfold Segment.Spans at hPlace hEnd
          omega
    -- it begins with it or before it, and does not end before
    · rcases hYields.eq_or_before hCovers hFirst hEarlier with
        ⟨_, rfl⟩ | hBefore
      · exact ⟨m, first, Nat.le_refl m, hOrder, hFirst⟩
      · unfold Segment.Spans at hPlace hStart
        omega
  · rintro ⟨k, start, hFrom, hTo, hYields⟩
    rcases hFirst.eq_or_before hCovers hYields hFrom with
      ⟨_, rfl⟩ | hBehind
    · exact ⟨_, Int.le_refl _, hLess, hStart⟩
    rcases hYields.eq_or_before hCovers hSecond hTo with
      ⟨_, rfl⟩ | hBefore
    · refine ⟨_, ?_, Int.sub_one_lt_of_le (Int.le_refl _),
        hEnd⟩
      omega
    -- it lies between the two, with all that it covers
    · have hSpan := hGrounded u hMem hTextual
      unfold Segment.Spans at hStart hEnd
      exact ⟨u.start, by omega, by omega, Int.le_refl _,
        hSpan⟩

end AnnotatedText

end ProseCheck

import ProseCheck.Proofs.Search
import ProseCheck.Proofs.Text.Slices
import ProseCheck.Text.Position

/-
  This file describes the lines of a position table: where
  they start and end, and which line an offset lies on.

  The starts of lines go up, so an offset lies on the last
  line that starts at or before it.  A line break that is
  made of two characters is never cut in two, and between the
  end of a line and the start of the next one stands a break.

  Main declarations:
    * `lineStarts_pairwise`
    * `not_break_at_lineStart`
    * `PositionTable.startOf_le_iff`
    * `PositionTable.le_lastOf_iff`
    * `PositionTable.startOf_le_endOf`
    * `PositionTable.terminator_of_next`
-/

------------------------------------------------------------
-- Starts of Lines
------------------------------------------------------------

namespace ProseCheck

/- A line that follows a break starts behind a character. -/
theorem mem_lineStartsFrom_bounds
    {offset s : Nat}
    {t : Text}
    (hMem : s ∈ lineStartsFrom offset t) :
    offset < s ∧ s ≤ offset + t.length := by
  fun_induction lineStartsFrom offset t with
  | case1 => simp at hMem
  | case2 offset cs ih =>
      rcases List.mem_cons.mp hMem with hHere | hLater
      · simp only [List.length_cons]
        omega
      · have hRest := ih hLater
        simp only [List.length_cons]
        omega
  | case3 offset c cs _ _ ih =>
      rcases List.mem_cons.mp hMem with hHere | hLater
      · simp only [List.length_cons]
        omega
      · have hRest := ih hLater
        simp only [List.length_cons]
        omega
  | case4 offset c cs _ _ ih =>
      have hRest := ih hMem
      simp only [List.length_cons]
      omega

/- The starts after breaks go up. -/
theorem lineStartsFrom_pairwise
    (offset : Nat)
    (t : Text) :
    (lineStartsFrom offset t).Pairwise (· < ·) := by
  fun_induction lineStartsFrom offset t with
  | case1 => exact List.Pairwise.nil
  | case2 offset cs ih =>
      refine List.pairwise_cons.mpr ⟨?_, ih⟩
      intro s hMem
      exact (mem_lineStartsFrom_bounds hMem).1
  | case3 offset c cs _ _ ih =>
      refine List.pairwise_cons.mpr ⟨?_, ih⟩
      intro s hMem
      exact (mem_lineStartsFrom_bounds hMem).1
  | case4 offset c cs _ _ ih => exact ih

/- The starts of lines go up. -/
theorem lineStarts_pairwise
    (t : Text) :
    (lineStarts t).Pairwise (· < ·) := by
  refine List.pairwise_cons.mpr
    ⟨?_, lineStartsFrom_pairwise 0 t⟩
  intro s hMem
  exact (mem_lineStartsFrom_bounds hMem).1

/- No line starts behind the end of the text. -/
theorem mem_lineStarts_le
    {s : Nat}
    {t : Text}
    (hMem : s ∈ lineStarts t) :
    s ≤ t.length := by
  rcases List.mem_cons.mp hMem with hFirst | hLater
  · omega
  · have hBounds := mem_lineStartsFrom_bounds hLater
    omega

/-
  No line after a break starts between a carriage return and
  the line feed behind it.
-/
theorem not_break_at_lineStartFrom
    {offset k : Nat}
    {t : Text}
    (hMem : offset + k + 1 ∈ lineStartsFrom offset t) :
    ¬ (t[k]? = some '\r' ∧ t[k + 1]? = some '\n') := by
  fun_induction lineStartsFrom offset t generalizing k with
  | case1 => simp at hMem
  | case2 offset cs ih =>
      rcases List.mem_cons.mp hMem with hHere | hLater
      · have hIndex : k = 1 := by omega
        subst hIndex
        simp
      · have hBounds := mem_lineStartsFrom_bounds hLater
        obtain ⟨j, rfl⟩ : ∃ j, k = j + 2 :=
          ⟨k - 2, by omega⟩
        simp only [List.getElem?_cons_succ]
        exact ih (by
          rwa [show offset + (j + 2) + 1 =
            offset + 2 + j + 1 by omega] at hLater)
  | case3 offset c cs hPair _ ih =>
      rcases List.mem_cons.mp hMem with hHere | hLater
      · have hIndex : k = 0 := by omega
        subst hIndex
        -- the two characters would have been one break
        rintro ⟨hReturn, hFeed⟩
        cases cs with
        | nil => simp at hFeed
        | cons d ds =>
            simp only [List.getElem?_cons_zero,
              List.getElem?_cons_succ,
              Option.some.injEq] at hReturn hFeed
            exact hPair ds hReturn (by rw [hFeed])
      · have hBounds := mem_lineStartsFrom_bounds hLater
        obtain ⟨j, rfl⟩ : ∃ j, k = j + 1 :=
          ⟨k - 1, by omega⟩
        simp only [List.getElem?_cons_succ]
        exact ih (by
          rwa [show offset + (j + 1) + 1 =
            offset + 1 + j + 1 by omega] at hLater)
  | case4 offset c cs _ _ ih =>
      have hBounds := mem_lineStartsFrom_bounds hMem
      obtain ⟨j, rfl⟩ : ∃ j, k = j + 1 :=
        ⟨k - 1, by omega⟩
      simp only [List.getElem?_cons_succ]
      exact ih (by
        rwa [show offset + (j + 1) + 1 =
          offset + 1 + j + 1 by omega] at hMem)

/-
  No line starts between a carriage return and the line feed
  behind it.
-/
theorem not_break_at_lineStart
    {k : Nat}
    {t : Text}
    (hMem : k + 1 ∈ lineStarts t) :
    ¬ (t[k]? = some '\r' ∧ t[k + 1]? = some '\n') := by
  rcases List.mem_cons.mp hMem with hFirst | hLater
  · omega
  · have hFrom : 0 + k + 1 ∈ lineStartsFrom 0 t := by
      rwa [Nat.zero_add]
    exact not_break_at_lineStartFrom hFrom

/- A line that starts after a break has one before it. -/
theorem break_before_lineStartFrom
    {offset k : Nat}
    {t : Text}
    (hMem : offset + k + 1 ∈ lineStartsFrom offset t) :
    ∃ c, t[k]? = some c ∧ isBreakChar c = true := by
  fun_induction lineStartsFrom offset t generalizing k with
  | case1 => simp at hMem
  | case2 offset cs ih =>
      rcases List.mem_cons.mp hMem with hHere | hLater
      · have hIndex : k = 1 := by omega
        exact ⟨'\n', by simp [hIndex], rfl⟩
      · have hBounds := mem_lineStartsFrom_bounds hLater
        obtain ⟨j, rfl⟩ : ∃ j, k = j + 2 :=
          ⟨k - 2, by omega⟩
        exact ih (by
          rwa [show offset + (j + 2) + 1 =
            offset + 2 + j + 1 by omega] at hLater)
  | case3 offset c cs _ hBreak ih =>
      rcases List.mem_cons.mp hMem with hHere | hLater
      · have hIndex : k = 0 := by omega
        exact ⟨c, by simp [hIndex], hBreak⟩
      · have hBounds := mem_lineStartsFrom_bounds hLater
        obtain ⟨j, rfl⟩ : ∃ j, k = j + 1 :=
          ⟨k - 1, by omega⟩
        exact ih (by
          rwa [show offset + (j + 1) + 1 =
            offset + 1 + j + 1 by omega] at hLater)
  | case4 offset c cs _ _ ih =>
      have hBounds := mem_lineStartsFrom_bounds hMem
      obtain ⟨j, rfl⟩ : ∃ j, k = j + 1 :=
        ⟨k - 1, by omega⟩
      exact ih (by
        rwa [show offset + (j + 1) + 1 =
          offset + 1 + j + 1 by omega] at hMem)

end ProseCheck

------------------------------------------------------------
-- The Line of an Offset
------------------------------------------------------------

namespace ProseCheck

namespace PositionTable

/- There is a first line. -/
theorem lineCount_pos
    (p : PositionTable) :
    0 < p.lineCount := by
  simp [lineCount, starts, lineStarts]

/- The table has an entry for each existing line. -/
theorem starts_getElem?
    (p : PositionTable)
    {line : Nat}
    (hLine : line < p.lineCount) :
    p.starts[line]? = some (p.startOf line) := by
  have hLength : line < p.starts.length := hLine
  simp [startOf, hLength]

/- The table has no entry behind the last line. -/
theorem starts_getElem?_eq_none
    (p : PositionTable)
    {line : Nat}
    (hLast : p.lineCount ≤ line) :
    p.starts[line]? = none :=
  List.getElem?_eq_none hLast

/- An existing line starts at a start of a line. -/
theorem startOf_mem_lineStarts
    (p : PositionTable)
    {line : Nat}
    (hLine : line < p.lineCount) :
    p.startOf line ∈ lineStarts p.text :=
  List.mem_of_getElem? (p.starts_getElem? hLine)

/- A line does not start behind the end of the text. -/
theorem startOf_le_length
    (p : PositionTable)
    (line : Nat) :
    p.startOf line ≤ p.text.length := by
  by_cases hLine : line < p.lineCount
  · exact mem_lineStarts_le (p.startOf_mem_lineStarts hLine)
  · have hNone :=
      p.starts_getElem?_eq_none (Nat.le_of_not_lt hLine)
    simp [startOf, hNone]

/- Later lines start at greater offsets. -/
theorem startOf_lt_startOf
    (p : PositionTable)
    {line next : Nat}
    (hLess : line < next)
    (hNext : next < p.lineCount) :
    p.startOf line < p.startOf next := by
  have hSorted := lineStarts_pairwise p.text
  have hThis := p.starts_getElem? (Nat.lt_trans hLess hNext)
  have hThat := p.starts_getElem? hNext
  rcases List.getElem?_eq_some_iff.mp hThis with
    ⟨hFirst, hStart⟩
  rcases List.getElem?_eq_some_iff.mp hThat with
    ⟨hSecond, hStop⟩
  rw [← hStart, ← hStop]
  exact List.pairwise_iff_getElem.mp hSorted line next
    hFirst hSecond hLess

/- Later lines do not start at smaller offsets. -/
theorem startOf_le_startOf
    (p : PositionTable)
    {line next : Nat}
    (hLess : line ≤ next)
    (hNext : next < p.lineCount) :
    p.startOf line ≤ p.startOf next := by
  rcases Nat.lt_or_eq_of_le hLess with hBefore | hSame
  · exact Nat.le_of_lt (p.startOf_lt_startOf hBefore hNext)
  · rw [hSame]

/- At least one line starts at or before an offset. -/
theorem countP_starts_pos
    (p : PositionTable)
    (offset : Nat) :
    0 < p.starts.countP (· ≤ offset) := by
  rw [starts, lineStarts,
    List.countP_cons_of_pos (by simp)]
  omega

/- An offset lies on one of the lines. -/
theorem lineAt_lt_lineCount
    (p : PositionTable)
    (offset : Nat) :
    p.lineAt offset < p.lineCount := by
  have hSome := p.countP_starts_pos offset
  have hAll : p.starts.countP (· ≤ offset) ≤ p.lineCount :=
    List.countP_le_length
  unfold lineAt
  omega

/-
  A line starts at or before an offset exactly where the
  offset lies on this line or on a later one.
-/
theorem startOf_le_iff
    (p : PositionTable)
    {line : Nat}
    (hLine : line < p.lineCount)
    (offset : Nat) :
    p.startOf line ≤ offset ↔ line ≤ p.lineAt offset := by
  have hSome := p.countP_starts_pos offset
  have hSorted : (lineStarts p.text).Pairwise (· ≤ ·) :=
    (lineStarts_pairwise p.text).imp Nat.le_of_lt
  have hCount :=
    le_iff_lt_countP hSorted (p.starts_getElem? hLine)
      offset
  rw [hCount, lineAt, starts]
  unfold starts at hSome
  omega

/- The line of an offset starts at or before the offset. -/
theorem startOf_lineAt_le
    (p : PositionTable)
    (offset : Nat) :
    p.startOf (p.lineAt offset) ≤ offset :=
  (p.startOf_le_iff (p.lineAt_lt_lineCount offset)
    offset).mpr (Nat.le_refl _)

end PositionTable

end ProseCheck

------------------------------------------------------------
-- Breaks
------------------------------------------------------------

namespace ProseCheck

/- A break of two characters takes up two offsets. -/
theorem break_of_slice
    {t : Text}
    {stop : Nat}
    (hPair : t.slice (stop - 2) stop = ['\r', '\n']) :
    ∃ k, stop = k + 2 ∧
      t[k]? = some '\r' ∧ t[k + 1]? = some '\n' := by
  have hLength := congrArg List.length hPair
  rw [Text.length_slice] at hLength
  simp only [List.length_cons, List.length_nil] at hLength
  refine ⟨stop - 2, by omega, ?_, ?_⟩
  · have hFirst := congrArg (·[0]?) hPair
    rw [Text.getElem?_slice (by omega)] at hFirst
    simpa using hFirst
  · have hSecond := congrArg (·[1]?) hPair
    rw [Text.getElem?_slice (by omega)] at hSecond
    simpa using hSecond

/- A break does not begin before the line that it ends. -/
theorem le_breakStart
    {t : Text}
    {start stop : Nat}
    (hStart : start ∈ lineStarts t)
    (hLess : start < stop) :
    start ≤ breakStart t stop := by
  unfold breakStart
  split
  · rename_i hPair
    rcases break_of_slice hPair with
      ⟨k, rfl, hReturn, hFeed⟩
    by_contra hInside
    have hBetween : start = k + 1 := by omega
    rw [hBetween] at hStart
    exact not_break_at_lineStart hStart ⟨hReturn, hFeed⟩
  · omega

/- A break begins before it stops. -/
theorem breakStart_le
    (t : Text)
    (stop : Nat) :
    breakStart t stop ≤ stop - 1 := by
  unfold breakStart
  split <;> omega

end ProseCheck

------------------------------------------------------------
-- Ends of Lines
------------------------------------------------------------

namespace ProseCheck

namespace PositionTable

/- The last line goes on to the end of the text. -/
theorem lastOf_of_last
    (p : PositionTable)
    {line : Nat}
    (hLast : p.lineCount ≤ line + 1) :
    p.lastOf line = p.text.length := by
  rw [lastOf, p.starts_getElem?_eq_none hLast]

/- Any other line goes on to where the next one starts. -/
theorem lastOf_of_next
    (p : PositionTable)
    {line : Nat}
    (hNext : line + 1 < p.lineCount) :
    p.lastOf line = p.startOf (line + 1) - 1 := by
  rw [lastOf, p.starts_getElem? hNext]

/- A line does not reach behind the end of the text. -/
theorem lastOf_le_length
    (p : PositionTable)
    (line : Nat) :
    p.lastOf line ≤ p.text.length := by
  by_cases hNext : line + 1 < p.lineCount
  · have hStart := p.startOf_le_length (line + 1)
    rw [p.lastOf_of_next hNext]
    omega
  · have hLast := p.lastOf_of_last (Nat.le_of_not_lt hNext)
    exact Nat.le_of_eq hLast

/- The last offset of a line is not before its start. -/
theorem startOf_le_lastOf
    (p : PositionTable)
    (line : Nat) :
    p.startOf line ≤ p.lastOf line := by
  by_cases hNext : line + 1 < p.lineCount
  · have hLess :=
      p.startOf_lt_startOf (Nat.lt_add_one line) hNext
    rw [p.lastOf_of_next hNext]
    omega
  · rw [p.lastOf_of_last (Nat.le_of_not_lt hNext)]
    exact p.startOf_le_length line

/-
  An offset lies at or before the last offset of a line
  exactly where it lies on this line or on an earlier one.
-/
theorem le_lastOf_iff
    (p : PositionTable)
    {offset : Nat}
    (hOffset : offset ≤ p.text.length)
    (line : Nat) :
    offset ≤ p.lastOf line ↔ p.lineAt offset ≤ line := by
  by_cases hNext : line + 1 < p.lineCount
  · have hStart := p.startOf_le_iff hNext offset
    have hLess :=
      p.startOf_lt_startOf (Nat.lt_add_one line) hNext
    rw [p.lastOf_of_next hNext]
    omega
  · have hAt := p.lineAt_lt_lineCount offset
    rw [p.lastOf_of_last (Nat.le_of_not_lt hNext)]
    omega

/- A line does not end before it starts. -/
theorem startOf_le_endOf
    (p : PositionTable)
    (line : Nat) :
    p.startOf line ≤ p.endOf line := by
  by_cases hNext : line + 1 < p.lineCount
  · have hLine : line < p.lineCount := Nat.lt_of_succ_lt hNext
    have hLess :=
      p.startOf_lt_startOf (Nat.lt_add_one line) hNext
    rw [endOf, p.starts_getElem? hNext]
    exact le_breakStart (p.startOf_mem_lineStarts hLine) hLess
  · rw [endOf,
      p.starts_getElem?_eq_none (Nat.le_of_not_lt hNext)]
    exact p.startOf_le_length line

/- A line does not end behind its last offset. -/
theorem endOf_le_lastOf
    (p : PositionTable)
    (line : Nat) :
    p.endOf line ≤ p.lastOf line := by
  rw [endOf, lastOf]
  cases p.starts[line + 1]? with
  | none => exact Nat.le_refl _
  | some next => exact breakStart_le p.text next

/- A line does not end behind the end of the text. -/
theorem endOf_le_length
    (p : PositionTable)
    (line : Nat) :
    p.endOf line ≤ p.text.length :=
  Nat.le_trans (p.endOf_le_lastOf line)
    (p.lastOf_le_length line)

/- The break that ends an existing line.  The last has none. -/
def terminator
    (p : PositionTable)
    (line : Nat) : Text :=
  match p.starts[line + 1]? with
  | none => []
  | some next => p.text.slice (p.endOf line) next

/-
  The break of a line before the last one is a carriage
  return, a line feed, or the two in this order.
-/
theorem terminator_of_next
    (p : PositionTable)
    {line : Nat}
    (hNext : line + 1 < p.lineCount) :
    p.terminator line = ['\r', '\n'] ∨
      p.terminator line = ['\r'] ∨
      p.terminator line = ['\n'] := by
  rw [terminator, endOf, p.starts_getElem? hNext]
  dsimp only
  have hStart :=
    p.startOf_lt_startOf (Nat.lt_add_one line) hNext
  have hMem := p.startOf_mem_lineStarts hNext
  obtain ⟨k, hEnd⟩ :=
    Nat.exists_eq_add_one.mpr (Nat.zero_lt_of_lt hStart)
  rw [hEnd] at hMem ⊢
  unfold breakStart
  split
  · rename_i hPair
    exact Or.inl hPair
  have hLater : 0 + k + 1 ∈ lineStartsFrom 0 p.text := by
    simpa [lineStarts] using hMem
  rcases break_before_lineStartFrom hLater with
    ⟨c, hChar, hBreak⟩
  have hSlice : p.text.slice k (k + 1) = [c] := by
    rcases List.getElem?_eq_some_iff.mp hChar with
      ⟨hInside, rfl⟩
    rw [Text.slice, List.drop_take, Nat.add_sub_cancel_left,
      List.drop_eq_getElem_cons hInside]
    rfl
  rw [Nat.add_sub_cancel, hSlice]
  simpa [isBreakChar] using hBreak

end PositionTable

end ProseCheck

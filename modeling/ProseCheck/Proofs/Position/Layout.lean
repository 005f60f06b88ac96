import ProseCheck.Proofs.Position.Translation

/-
  This file says that the lines of a table are the only way
  to divide its text into lines.

  A layout gives the offsets at which each line starts and at
  which its content stops.  It divides a text if the contents
  hold no characters of breaks, a break stands between any two
  lines, and no break of two characters is cut in two.  The
  content of a line then stops at the first break behind its
  start, and this break decides where the next line starts.
  So two layouts of a text agree, line by line.

  Main declarations:
    * `LineLayout.Divides`
    * `LineLayout.Divides.join`
    * `LineLayout.Divides.agree`
    * `PositionTable.layout_divides`
    * `PositionTable.lines_unique`
-/

------------------------------------------------------------
-- Layouts
------------------------------------------------------------

namespace ProseCheck

/-
  A number of lines, with the offsets at which each of them
  starts and at which its content stops.
-/
structure LineLayout where
  count : Nat
  start : Nat → Nat
  stop : Nat → Nat

namespace LineLayout

/- The content of a line. -/
def content
    (a : LineLayout)
    (t : Text)
    (line : Nat) : Text :=
  t.slice (a.start line) (a.stop line)

/- What stands behind the content.  The last line has none. -/
def terminator
    (a : LineLayout)
    (t : Text)
    (line : Nat) : Text :=
  if line + 1 < a.count then
    t.slice (a.stop line) (a.start (line + 1))
  else
    []

/- A text is divided into lines. -/
structure Divides
    (a : LineLayout)
    (t : Text) : Prop where
  nonempty : 0 < a.count
  first : a.start 0 = 0
  ascending :
    ∀ line next, line < next → next < a.count →
      a.start line < a.start next
  inside : ∀ line < a.count, a.start line ≤ t.length
  plain :
    ∀ line < a.count, ∀ c ∈ a.content t line,
      c ≠ '\r' ∧ c ≠ '\n'
  broken :
    ∀ line, line + 1 < a.count →
      a.terminator t line = ['\r', '\n'] ∨
        a.terminator t line = ['\r'] ∨
        a.terminator t line = ['\n']
  unsplit :
    ∀ line < a.count,
      ¬ (0 < a.start line ∧
        t[a.start line - 1]? = some '\r' ∧
        t[a.start line]? = some '\n')
  last : a.stop (a.count - 1) = t.length

end LineLayout

end ProseCheck

------------------------------------------------------------
-- Contents and Breaks
------------------------------------------------------------

namespace ProseCheck

namespace LineLayout

variable
  {a b : LineLayout}
  {t : Text}
  {line : Nat}

/- A line with one behind it has a break that starts there. -/
theorem terminator_of_next
    (hNext : line + 1 < a.count) :
    a.terminator t line =
      t.slice (a.stop line) (a.start (line + 1)) :=
  if_pos hNext

/- The last line stops at the end of the text. -/
theorem Divides.stop_of_last
    (hDivides : a.Divides t)
    (hLine : line < a.count)
    (hLast : ¬ line + 1 < a.count) :
    a.stop line = t.length := by
  have hIndex : line = a.count - 1 := by omega
  rw [hIndex]
  exact hDivides.last

/-
  The break behind a line begins where its content stops, and
  is one or two characters long.
-/
theorem Divides.break_at_stop
    (hDivides : a.Divides t)
    (hNext : line + 1 < a.count) :
    (∃ c, t[a.stop line]? = some c ∧
        (c = '\r' ∨ c = '\n')) ∧
      (a.start (line + 1) = a.stop line + 1 ∨
        (a.start (line + 1) = a.stop line + 2 ∧
          t[a.stop line]? = some '\r' ∧
          t[a.stop line + 1]? = some '\n')) := by
  have hInside := hDivides.inside (line + 1) hNext
  have hBroken := hDivides.broken line hNext
  rw [terminator_of_next hNext] at hBroken
  have hLength :=
    t.length_slice (a.stop line) (a.start (line + 1))
  rw [Nat.min_eq_left hInside] at hLength
  rcases hBroken with hPair | hReturn | hFeed
  · rw [hPair] at hLength
    simp only [List.length_cons, List.length_nil] at hLength
    rcases Text.slice_eq_cons hPair with
      ⟨_, hFirst, hRest⟩
    rcases Text.slice_eq_cons hRest with ⟨_, hSecond, _⟩
    exact ⟨⟨_, hFirst, Or.inl rfl⟩,
      Or.inr ⟨by omega, hFirst, hSecond⟩⟩
  · rw [hReturn] at hLength
    simp only [List.length_cons, List.length_nil] at hLength
    rcases Text.slice_eq_cons hReturn with ⟨_, hFirst, _⟩
    exact ⟨⟨_, hFirst, Or.inl rfl⟩, Or.inl (by omega)⟩
  · rw [hFeed] at hLength
    simp only [List.length_cons, List.length_nil] at hLength
    rcases Text.slice_eq_cons hFeed with ⟨_, hFirst, _⟩
    exact ⟨⟨_, hFirst, Or.inr rfl⟩, Or.inl (by omega)⟩

/-
  The content of a line does not stop before it starts: the
  break behind it would have the start of the line inside.
-/
theorem Divides.start_le_stop
    (hDivides : a.Divides t)
    (hLine : line < a.count) :
    a.start line ≤ a.stop line := by
  by_cases hNext : line + 1 < a.count
  · have hAscending :=
      hDivides.ascending line (line + 1) (by omega) hNext
    rcases (hDivides.break_at_stop hNext).2 with
      hOne | ⟨hTwo, hReturn, hFeed⟩
    · omega
    · by_contra hBefore
      have hInside : a.start line = a.stop line + 1 := by
        omega
      apply hDivides.unsplit line hLine
      rw [hInside]
      exact ⟨by omega, hReturn, hFeed⟩
  · rw [hDivides.stop_of_last hLine hNext]
    exact hDivides.inside line hLine

/- The content of a line stops inside of the text. -/
theorem Divides.stop_le_length
    (hDivides : a.Divides t)
    (hLine : line < a.count) :
    a.stop line ≤ t.length := by
  by_cases hNext : line + 1 < a.count
  · have hInside := hDivides.inside (line + 1) hNext
    rcases (hDivides.break_at_stop hNext).2 with
      hOne | ⟨hTwo, _⟩
    · omega
    · omega
  · exact Nat.le_of_eq (hDivides.stop_of_last hLine hNext)

/- No character of a break stands in the content of a line. -/
theorem Divides.not_break_in_content
    (hDivides : a.Divides t)
    (hLine : line < a.count)
    {k : Nat}
    {c : Char}
    (hFrom : a.start line ≤ k)
    (hTo : k < a.stop line)
    (hChar : t[k]? = some c) :
    ¬ (c = '\r' ∨ c = '\n') := by
  have hMem : c ∈ a.content t line := by
    apply List.mem_of_getElem? (i := k - a.start line)
    rw [content, Text.getElem?_slice (by omega),
      Nat.add_sub_of_le hFrom]
    exact hChar
  have hPlain := hDivides.plain line hLine c hMem
  exact not_or.mpr hPlain

end LineLayout

end ProseCheck

------------------------------------------------------------
-- The Text from its Lines
------------------------------------------------------------

namespace ProseCheck

namespace LineLayout

variable
  {a : LineLayout}
  {t : Text}

/- The lines before a line are the text before its start. -/
theorem Divides.join_before
    (hDivides : a.Divides t)
    {line : Nat}
    (hLine : line < a.count) :
    (List.range line).flatMap
        (fun l => a.content t l ++ a.terminator t l) =
      t.slice 0 (a.start line) := by
  induction line with
  | zero =>
      rw [hDivides.first]
      rfl
  | succ l ih =>
      have hHere : l < a.count := Nat.lt_of_succ_lt hLine
      have hStart := hDivides.start_le_stop hHere
      have hStop : a.stop l ≤ a.start (l + 1) := by
        rcases (hDivides.break_at_stop hLine).2 with
          hOne | ⟨hTwo, _⟩
        · omega
        · omega
      rw [List.range_succ, List.flatMap_append, ih hHere,
        List.flatMap_singleton, content,
        terminator_of_next hLine,
        Text.slice_append_slice t hStart hStop,
        Text.slice_append_slice t (Nat.zero_le _)
          (Nat.le_trans hStart hStop)]

/- The contents and the breaks together are the text. -/
theorem Divides.join
    (hDivides : a.Divides t) :
    (List.range a.count).flatMap
        (fun l => a.content t l ++ a.terminator t l) = t := by
  obtain ⟨l, hCount⟩ :=
    Nat.exists_eq_add_one.mpr hDivides.nonempty
  have hLine : l < a.count := by omega
  have hLast : ¬ l + 1 < a.count := by omega
  have hStart := hDivides.start_le_stop hLine
  rw [hCount, List.range_succ, List.flatMap_append,
    hDivides.join_before hLine, List.flatMap_singleton,
    content, terminator, if_neg hLast, List.append_nil,
    Text.slice_append_slice t (Nat.zero_le _) hStart,
    hDivides.stop_of_last hLine hLast]
  simp [Text.slice]

end LineLayout

end ProseCheck

------------------------------------------------------------
-- Two Layouts of a Text
------------------------------------------------------------

namespace ProseCheck

namespace LineLayout

variable
  {a b : LineLayout}
  {t : Text}
  {line : Nat}

/-
  Of two lines with the same start, neither goes on behind
  the content of the other: there a break begins.
-/
theorem Divides.stop_le_stop
    (hFirst : a.Divides t)
    (hSecond : b.Divides t)
    (hLine : line < a.count)
    (hOther : line < b.count)
    (hStart : a.start line = b.start line) :
    a.stop line ≤ b.stop line := by
  by_contra hBehind
  have hBefore := hSecond.start_le_stop hOther
  have hInside := hFirst.stop_le_length hLine
  have hNext : line + 1 < b.count := by
    by_contra hLast
    have hStop := hSecond.stop_of_last hOther hLast
    omega
  rcases (hSecond.break_at_stop hNext).1 with
    ⟨c, hChar, hBreak⟩
  exact hFirst.not_break_in_content hLine (by omega)
    (by omega) hChar hBreak

/- Lines with the same start have the same content. -/
theorem Divides.stop_eq_stop
    (hFirst : a.Divides t)
    (hSecond : b.Divides t)
    (hLine : line < a.count)
    (hOther : line < b.count)
    (hStart : a.start line = b.start line) :
    a.stop line = b.stop line :=
  Nat.le_antisymm
    (hFirst.stop_le_stop hSecond hLine hOther hStart)
    (hSecond.stop_le_stop hFirst hOther hLine hStart.symm)

/-
  Of two lines with the same start, neither has a longer
  break behind it: the shorter one would be cut off it.
-/
theorem Divides.next_le_next
    (hFirst : a.Divides t)
    (hSecond : b.Divides t)
    (hNext : line + 1 < a.count)
    (hOther : line + 1 < b.count)
    (hStart : a.start line = b.start line) :
    a.start (line + 1) ≤ b.start (line + 1) := by
  have hStop :=
    hFirst.stop_eq_stop hSecond (Nat.lt_of_succ_lt hNext)
      (Nat.lt_of_succ_lt hOther) hStart
  rcases (hFirst.break_at_stop hNext).2 with
    hOne | ⟨hTwo, hReturn, hFeed⟩
  · have hSome := (hSecond.break_at_stop hOther).2
    omega
  · by_contra hBehind
    have hSome := (hSecond.break_at_stop hOther).2
    have hShort :
        b.start (line + 1) = a.stop line + 1 := by
      omega
    apply hSecond.unsplit (line + 1) hOther
    rw [hShort]
    exact ⟨by omega, hReturn, hFeed⟩

/- Lines with the same start both have one behind, or none. -/
theorem Divides.next_of_next
    (hFirst : a.Divides t)
    (hSecond : b.Divides t)
    (hNext : line + 1 < a.count)
    (hOther : line < b.count)
    (hStart : a.start line = b.start line) :
    line + 1 < b.count := by
  have hStop :=
    hFirst.stop_eq_stop hSecond (Nat.lt_of_succ_lt hNext)
      hOther hStart
  by_contra hLast
  have hEnd := hSecond.stop_of_last hOther hLast
  rcases (hFirst.break_at_stop hNext).1 with ⟨c, hChar, _⟩
  rw [hStop, hEnd, List.getElem?_eq_none (Nat.le_refl _)]
    at hChar
  cases hChar

/- Each line of a layout starts as one of any other. -/
theorem Divides.start_eq_start
    (hFirst : a.Divides t)
    (hSecond : b.Divides t)
    (hLine : line < a.count) :
    line < b.count ∧ a.start line = b.start line := by
  induction line with
  | zero =>
      refine ⟨hSecond.nonempty, ?_⟩
      rw [hFirst.first, hSecond.first]
  | succ l ih =>
      rcases ih (Nat.lt_of_succ_lt hLine) with
        ⟨hOther, hStart⟩
      have hNext :=
        hFirst.next_of_next hSecond hLine hOther hStart
      refine ⟨hNext, Nat.le_antisymm ?_ ?_⟩
      · exact
          hFirst.next_le_next hSecond hLine hNext hStart
      · exact
          hSecond.next_le_next hFirst hNext hLine
            hStart.symm

/- A layout has no more lines than any other. -/
theorem Divides.count_le_count
    (hFirst : a.Divides t)
    (hSecond : b.Divides t) :
    a.count ≤ b.count := by
  have hNonempty := hFirst.nonempty
  have hLast : a.count - 1 < a.count := by omega
  have hOther := (hFirst.start_eq_start hSecond hLast).1
  omega

/- Two layouts of a text have the same lines. -/
theorem Divides.agree
    (hFirst : a.Divides t)
    (hSecond : b.Divides t) :
    a.count = b.count ∧
      ∀ line < a.count,
        a.start line = b.start line ∧
          a.stop line = b.stop line := by
  refine ⟨Nat.le_antisymm
    (hFirst.count_le_count hSecond)
    (hSecond.count_le_count hFirst), ?_⟩
  intro line hLine
  rcases hFirst.start_eq_start hSecond hLine with
    ⟨hOther, hStart⟩
  exact ⟨hStart,
    hFirst.stop_eq_stop hSecond hLine hOther hStart⟩

end LineLayout

end ProseCheck

------------------------------------------------------------
-- The Layout of a Table
------------------------------------------------------------

namespace ProseCheck

/- Behind a character of a break, or one on, a line starts. -/
theorem lineStartsFrom_of_break
    {t : Text}
    {k : Nat}
    {c : Char}
    (offset : Nat)
    (hChar : t[k]? = some c)
    (hBreak : isBreakChar c = true) :
    offset + k + 1 ∈ lineStartsFrom offset t ∨
      (offset + k + 2 ∈ lineStartsFrom offset t ∧
        t[k]? = some '\r' ∧ t[k + 1]? = some '\n') := by
  fun_induction lineStartsFrom offset t generalizing k with
  | case1 => simp at hChar
  | case2 offset cs ih =>
      rcases k with _ | _ | j
      · exact Or.inr ⟨by simp, rfl, rfl⟩
      · exact Or.inl (by simp)
      · simp only [List.getElem?_cons_succ] at hChar ⊢
        have hRest := ih hChar
        rw [show offset + 2 + j = offset + (j + 2) by omega]
          at hRest
        exact hRest.imp (List.mem_cons_of_mem _)
          (And.imp_left (List.mem_cons_of_mem _))
  | case3 offset d cs _ hHere ih =>
      cases k with
      | zero => exact Or.inl (by simp)
      | succ j =>
          simp only [List.getElem?_cons_succ] at hChar ⊢
          have hRest := ih hChar
          rw [show offset + 1 + j = offset + (j + 1) by omega]
            at hRest
          exact hRest.imp (List.mem_cons_of_mem _)
            (And.imp_left (List.mem_cons_of_mem _))
  | case4 offset d cs _ hPlain ih =>
      cases k with
      | zero =>
          simp only [List.getElem?_cons_zero,
            Option.some.injEq] at hChar
          rw [hChar] at hPlain
          exact absurd hBreak hPlain
      | succ j =>
          simp only [List.getElem?_cons_succ] at hChar ⊢
          have hRest := ih hChar
          rwa [show offset + 1 + j = offset + (j + 1) by omega]
            at hRest

/- A break of two characters begins at its first one. -/
theorem breakStart_of_pair
    {t : Text}
    {k : Nat}
    (hReturn : t[k]? = some '\r')
    (hFeed : t[k + 1]? = some '\n') :
    breakStart t (k + 2) = k := by
  have hPair : t.slice k (k + 2) = ['\r', '\n'] := by
    rcases List.getElem?_eq_some_iff.mp hReturn with
      ⟨hFirst, hReturn⟩
    rcases List.getElem?_eq_some_iff.mp hFeed with
      ⟨hSecond, hFeed⟩
    rw [Text.slice, List.drop_take, Nat.add_sub_cancel_left,
      List.drop_eq_getElem_cons hFirst,
      List.drop_eq_getElem_cons hSecond, hReturn, hFeed]
    rfl
  rw [breakStart, Nat.add_sub_cancel, if_pos hPair]

namespace PositionTable

/- The lines of a table, from their starts to their ends. -/
def layout
    (p : PositionTable) : LineLayout :=
  ⟨p.lineCount, p.startOf, p.endOf⟩

/- The start of a line is that of one of the lines. -/
theorem exists_startOf
    (p : PositionTable)
    {s : Nat}
    (hMem : s ∈ lineStarts p.text) :
    ∃ line < p.lineCount, p.startOf line = s := by
  rcases List.mem_iff_getElem?.mp hMem with ⟨line, hEntry⟩
  have hLine : line < p.lineCount :=
    (List.getElem?_eq_some_iff.mp hEntry).1
  refine ⟨line, hLine, ?_⟩
  have hStart := p.starts_getElem? hLine
  rw [starts, hEntry] at hStart
  exact (Option.some.inj hStart).symm

/-
  A line that starts at or before an offset is not the last
  one if another starts behind it.
-/
theorem next_of_lineStart
    (p : PositionTable)
    {line s : Nat}
    (hMem : s ∈ lineStarts p.text)
    (hBefore : p.startOf line < s)
    (hLine : line < p.lineCount) :
    line + 1 < p.lineCount ∧ p.startOf (line + 1) ≤ s := by
  rcases p.exists_startOf hMem with ⟨next, hNext, rfl⟩
  have hLess : line < next := by
    by_contra hNot
    have hOrder :=
      p.startOf_le_startOf (Nat.le_of_not_lt hNot) hLine
    omega
  exact ⟨by omega, p.startOf_le_startOf hLess hNext⟩

/- No break behind the start of a line is in its content. -/
theorem endOf_le_of_break
    (p : PositionTable)
    {line k : Nat}
    {c : Char}
    (hLine : line < p.lineCount)
    (hFrom : p.startOf line ≤ k)
    (hChar : p.text[k]? = some c)
    (hBreak : isBreakChar c = true) :
    p.endOf line ≤ k := by
  have hLast := p.endOf_le_lastOf line
  rcases lineStartsFrom_of_break 0 hChar hBreak with
    hOne | ⟨hTwo, hReturn, hFeed⟩
  · have hMem : k + 1 ∈ lineStarts p.text :=
      List.mem_cons_of_mem 0 (by rwa [Nat.zero_add] at hOne)
    rcases p.next_of_lineStart hMem (by omega) hLine with
      ⟨hNext, hStart⟩
    rw [p.lastOf_of_next hNext] at hLast
    omega
  · have hMem : k + 2 ∈ lineStarts p.text :=
      List.mem_cons_of_mem 0 (by rwa [Nat.zero_add] at hTwo)
    rcases p.next_of_lineStart hMem (by omega) hLine with
      ⟨hNext, hStart⟩
    rw [p.lastOf_of_next hNext] at hLast
    by_cases hEnd : p.startOf (line + 1) = k + 2
    · rw [endOf, p.starts_getElem? hNext, hEnd]
      exact Nat.le_of_eq (breakStart_of_pair hReturn hFeed)
    · omega

/- The lines of a table divide its text. -/
theorem layout_divides
    (p : PositionTable) :
    p.layout.Divides p.text := by
  refine
    { nonempty := p.lineCount_pos
      first := rfl
      ascending := fun _ _ => p.startOf_lt_startOf
      inside := fun line _ => p.startOf_le_length line
      plain := ?_
      broken := ?_
      unsplit := ?_
      last := ?_ }
  · intro line hLine c hMem
    rcases List.mem_iff_getElem?.mp hMem with ⟨i, hEntry⟩
    have hLength := (List.getElem?_eq_some_iff.mp hEntry).1
    rw [LineLayout.content, Text.length_slice] at hLength
    rw [LineLayout.content,
      Text.getElem?_slice (by omega)] at hEntry
    have hNot : isBreakChar c ≠ true := by
      intro hBreak
      have hEnd :=
        p.endOf_le_of_break hLine (Nat.le_add_right _ i)
          hEntry hBreak
      have hStop : p.layout.stop line = p.endOf line := rfl
      have hStart : p.layout.start line = p.startOf line := rfl
      omega
    simpa [isBreakChar] using hNot
  · intro line hNext
    have hTerminator := p.terminator_of_next hNext
    rw [terminator, p.starts_getElem? hNext] at hTerminator
    rw [LineLayout.terminator_of_next hNext]
    exact hTerminator
  · rintro line hLine ⟨hPositive, hReturn, hFeed⟩
    obtain ⟨k, hStart⟩ := Nat.exists_eq_add_one.mpr hPositive
    have hMem := p.startOf_mem_lineStarts hLine
    change p.startOf line = k + 1 at hStart
    rw [hStart] at hMem
    change p.text[p.startOf line - 1]? = _ at hReturn
    change p.text[p.startOf line]? = _ at hFeed
    rw [hStart] at hReturn hFeed
    exact not_break_at_lineStart hMem ⟨hReturn, hFeed⟩
  · have hPositive := p.lineCount_pos
    change p.endOf (p.lineCount - 1) = p.text.length
    rw [endOf, p.starts_getElem?_eq_none (by omega)]

end PositionTable

end ProseCheck

------------------------------------------------------------
-- The Only Layout
------------------------------------------------------------

namespace ProseCheck

namespace PositionTable

/-
  A table tells where each line starts and ends.  The lines
  divide the text, their contents and breaks together are the
  text, and no other layout divides it.
-/
theorem lines_unique
    (p : PositionTable) :
    (∀ line : Nat, line < p.lineCount →
      p.lineStart line = .ok (p.layout.start line) ∧
        p.lineEnd line = .ok (p.layout.stop line)) ∧
    p.layout.Divides p.text ∧
    (List.range p.lineCount).flatMap
        (fun line =>
          p.layout.content p.text line ++
            p.layout.terminator p.text line) = p.text ∧
    ∀ other : LineLayout, other.Divides p.text →
      other.count = p.lineCount ∧
        ∀ line < other.count,
          other.start line = p.layout.start line ∧
            other.stop line = p.layout.stop line := by
  have hDivides := p.layout_divides
  refine ⟨?_, hDivides, hDivides.join, ?_⟩
  · intro line hLine
    rw [lineStart, lineEnd, p.clampLine_of_lt hLine]
    exact ⟨rfl, rfl⟩
  · intro other hOther
    exact hOther.agree hDivides

/-
  A break of two characters, one of a single character right
  behind it, and a line without a break.
-/
theorem lines_unique_adjacent :
    let p : PositionTable :=
      ⟨['a', '\r', '\n', '\r', 'b'], true, .utf16⟩
    let other : LineLayout :=
      ⟨3, fun line => [0, 3, 4].getD line 0,
        fun line => [1, 3, 5].getD line 0⟩
    1 < p.lineCount ∧ other.Divides p.text ∧
      p.lineEnd 1 = .ok (p.layout.stop 1) ∧
      other.stop 1 = p.layout.stop 1 := by
  intro p other
  have hAscending :
      ∀ next < 3, ∀ line < next,
        other.start line < other.start next := by
    decide
  have hPlain :
      ∀ line < 3,
        (other.content p.text line).all
          (fun c => !isBreakChar c) = true := by
    decide
  have hBroken :
      ∀ line < 2,
        other.terminator p.text line = ['\r', '\n'] ∨
          other.terminator p.text line = ['\r'] ∨
          other.terminator p.text line = ['\n'] := by
    decide
  have hDivides : other.Divides p.text :=
    { nonempty := by decide
      first := rfl
      ascending := fun line next hLess hNext =>
        hAscending next hNext line hLess
      inside := by decide
      plain := by
        intro line hLine c hMem
        have hNone := List.all_eq_true.mp (hPlain line hLine)
        simpa [isBreakChar] using hNone c hMem
      broken := fun line hNext =>
        hBroken line (Nat.lt_of_succ_lt_succ hNext)
      unsplit := by decide
      last := rfl }
  have hCount : 1 < p.lineCount := by decide
  rcases p.lines_unique with ⟨hEnds, _, _, hOnly⟩
  exact ⟨hCount, hDivides, (hEnds 1 hCount).2,
    ((hOnly other hDivides).2 1 (by decide)).2⟩

end PositionTable

end ProseCheck

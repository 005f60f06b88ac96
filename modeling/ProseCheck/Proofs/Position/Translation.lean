import ProseCheck.Proofs.Position.Lines
import ProseCheck.Proofs.Text.Columns

/-
  This file relates the two translations of a position
  table.  An offset has a position at or before a line and
  column exactly where the offset is at or before the one
  that the line and column mean, and going to a position and
  back leads to where it began.

  Main declarations:
    * `PositionTable.offsetOf_place`
    * `PositionTable.place_le_iff`
    * `PositionTable.positionOf_offsetOf_galois`
-/

------------------------------------------------------------
-- The Order of Positions
------------------------------------------------------------

namespace ProseCheck

namespace Position

/- One position is before another if it is not at it. -/
instance : LT Position where
  lt p q := p ≤ q ∧ ¬ q ≤ p

/- The order of positions, spelled out. -/
theorem mk_le_mk
    (line column line' column' : Nat) :
    (⟨line, column⟩ : Position) ≤ ⟨line', column'⟩ ↔
      line < line' ∨ (line = line' ∧ column ≤ column') :=
  Iff.rfl

end Position

end ProseCheck

------------------------------------------------------------
-- Offsets of Positions
------------------------------------------------------------

namespace ProseCheck

namespace PositionTable

/- The characters of a line that a column can point at. -/
def content
    (p : PositionTable)
    (line : Nat) : Text :=
  p.text.slice (p.startOf line) (p.lastOf line)

/- The offset that a column of an existing line means. -/
def offsetIn
    (p : PositionTable)
    (line column : Nat) : Nat :=
  p.startOf line + p.encoding.fit column (p.content line)

/- A line has a character for each of its offsets. -/
theorem length_content
    (p : PositionTable)
    (line : Nat) :
    (p.content line).length =
      p.lastOf line - p.startOf line := by
  have hLast := p.lastOf_le_length line
  rw [content, Text.length_slice]
  omega

/- The offset of a column lies on its line. -/
theorem offsetIn_le_lastOf
    (p : PositionTable)
    (line column : Nat) :
    p.offsetIn line column ≤ p.lastOf line := by
  have hFit :=
    p.encoding.fit_le_length column (p.content line)
  have hLast := p.startOf_le_lastOf line
  rw [p.length_content] at hFit
  unfold offsetIn
  omega

/- The line that is nearest to an existing line is this line. -/
theorem nearestLine_of_lt
    (p : PositionTable)
    {line : Nat}
    (hLine : line < p.lineCount) :
    p.nearestLine line = line := by
  unfold nearestLine
  omega

/- The line that is meant by an existing line is this line. -/
theorem clampLine_of_lt
    (p : PositionTable)
    {line : Nat}
    (hLine : line < p.lineCount) :
    p.clampLine line = .ok line := by
  have hInside :
      (0 : Int) ≤ line ∧ (line : Int) < p.lineCount := by
    omega
  rw [clampLine, if_neg (fun hBad => hBad.2 hInside),
    p.nearestLine_of_lt hLine]

/-
  A line and column that a table accepts have the offset of
  the column in the line.
-/
theorem offsetOf_of_lt
    (p : PositionTable)
    {line column : Nat}
    (hLine : line < p.lineCount)
    (hColumn :
      p.strict = true →
        column ≤ p.encoding.units (p.content line)) :
    p.offsetOf line column = .ok (p.offsetIn line column) := by
  have hNarrow :
      ¬ (p.strict = true ∧
        p.encoding.units
            (p.text.slice (p.startOf line) (p.lastOf line)) <
          column) := by
    rintro ⟨hStrict, hLess⟩
    exact absurd hLess (Nat.not_lt.mpr (hColumn hStrict))
  rw [offsetOf, p.clampLine_of_lt hLine]
  simp only [bind, Except.bind, Int.toNat_natCast,
    if_neg hNarrow]
  rfl

end PositionTable

end ProseCheck

------------------------------------------------------------
-- Positions of Offsets
------------------------------------------------------------

namespace ProseCheck

namespace PositionTable

/- The column of an offset counts characters of its line. -/
theorem place_eq
    (p : PositionTable)
    {offset : Nat}
    (hOffset : offset ≤ p.text.length) :
    p.place offset =
      ⟨p.lineAt offset,
        p.encoding.units
          ((p.content (p.lineAt offset)).take
            (offset - p.startOf (p.lineAt offset)))⟩ := by
  have hLast :=
    (p.le_lastOf_iff hOffset (p.lineAt offset)).mpr
      (Nat.le_refl _)
  rw [place, content, Text.take_slice _ hLast]

/- An offset of the text is the one that is meant. -/
theorem positionOf_of_le
    (p : PositionTable)
    {offset : Nat}
    (hOffset : offset ≤ p.text.length) :
    p.positionOf offset = .ok (p.place offset) := by
  have hHolds : p.Holds offset := by
    unfold Holds
    omega
  have hNearest : p.nearestOffset offset = offset := by
    unfold nearestOffset
    omega
  rw [positionOf, clampOffset,
    if_neg (fun hBad => hBad.2 hHolds), hNearest]
  rfl

/- The position of an offset has an existing line. -/
theorem line_place_lt
    (p : PositionTable)
    (offset : Nat) :
    (p.place offset).line < p.lineCount :=
  p.lineAt_lt_lineCount offset

/- As many characters stand before an offset on its line. -/
theorem sub_startOf_le_length_content
    (p : PositionTable)
    {offset line : Nat}
    (hLast : offset ≤ p.lastOf line) :
    offset - p.startOf line ≤ (p.content line).length := by
  rw [p.length_content]
  omega

/-
  The position of an offset means this offset again, also in
  the middle of a break and at the end of the text.
-/
theorem offsetIn_place
    (p : PositionTable)
    {offset : Nat}
    (hOffset : offset ≤ p.text.length) :
    p.offsetIn (p.place offset).line
        (p.place offset).character = offset := by
  have hStart := p.startOf_lineAt_le offset
  have hLast :=
    (p.le_lastOf_iff hOffset (p.lineAt offset)).mpr
      (Nat.le_refl _)
  rw [p.place_eq hOffset]
  dsimp only
  rw [offsetIn,
    p.encoding.fit_units_take
      (p.sub_startOf_le_length_content hLast)]
  omega

/-
  Going to the position of an offset and back leads to the
  offset.  A strict table accepts the position.
-/
theorem offsetOf_place
    (p : PositionTable)
    {offset : Nat}
    (hOffset : offset ≤ p.text.length) :
    p.offsetOf (p.place offset).line
        (p.place offset).character = .ok offset := by
  have hColumn :
      (p.place offset).character ≤
        p.encoding.units
          (p.content (p.place offset).line) := by
    rw [p.place_eq hOffset]
    exact p.encoding.units_take_le _ _
  rw [p.offsetOf_of_lt (p.line_place_lt offset)
    (fun _ => hColumn), p.offsetIn_place hOffset]

/-
  The position of an offset is at or before a line and column
  exactly where the offset is at or before the one that they
  mean.
-/
theorem place_le_iff_le_offsetIn
    (p : PositionTable)
    {offset line : Nat}
    (hOffset : offset ≤ p.text.length)
    (hLine : line < p.lineCount)
    (column : Nat) :
    p.place offset ≤ ⟨line, column⟩ ↔
      offset ≤ p.offsetIn line column := by
  have hStart := p.startOf_le_iff hLine offset
  have hLast := p.le_lastOf_iff hOffset line
  have hEnd := p.offsetIn_le_lastOf line column
  have hBegin : p.startOf line ≤ p.offsetIn line column :=
    Nat.le_add_right _ _
  rw [p.place_eq hOffset, Position.mk_le_mk]
  rcases Nat.lt_trichotomy (p.lineAt offset) line with
    hBefore | hSame | hAfter
  -- an earlier line: the position and the offset are before
  · constructor
    · intro _
      omega
    · intro _
      exact Or.inl hBefore
  -- the same line: both count characters from its start
  · have hFit :=
      p.encoding.le_fit_iff column
        (p.sub_startOf_le_length_content
          (hLast.mpr (Nat.le_of_eq hSame)))
    have hFrom := hStart.mpr (Nat.le_of_eq hSame.symm)
    rw [hSame, ← hFit, offsetIn]
    simp only [Nat.lt_irrefl, false_or, true_and]
    omega
  -- a later line: neither is at or before
  · constructor
    · rintro (hLess | ⟨hEq, _⟩) <;> omega
    · intro hLe
      have hReach := hLast.mp (Nat.le_trans hLe hEnd)
      omega

/- Positions are ordered as the offsets that they stand for. -/
theorem place_le_iff
    (p : PositionTable)
    {first second : Nat}
    (hFirst : first ≤ p.text.length)
    (hSecond : second ≤ p.text.length) :
    p.place first ≤ p.place second ↔ first ≤ second := by
  rw [p.place_le_iff_le_offsetIn hFirst
    (p.line_place_lt second), p.offsetIn_place hSecond]

/- A greater offset has a later position. -/
theorem place_lt_place
    (p : PositionTable)
    {first second : Nat}
    (hLess : first < second)
    (hSecond : second ≤ p.text.length) :
    p.place first < p.place second := by
  have hFirst : first ≤ p.text.length := by omega
  refine ⟨(p.place_le_iff hFirst hSecond).mpr ?_, ?_⟩
  · exact Nat.le_of_lt hLess
  · rw [p.place_le_iff hSecond hFirst]
    omega

end PositionTable

end ProseCheck

------------------------------------------------------------
-- The Connection
------------------------------------------------------------

namespace ProseCheck

namespace PositionTable

/-
  In a lenient table the two translations are a connection:
  the position of an offset is at or before a line and column
  exactly where the offset is at or before that of the line
  and column.  Positions go up with the offsets, and each
  offset is the one that its position means.
-/
theorem positionOf_offsetOf_galois
    (t : Text)
    (e : Encoding) :
    let p : PositionTable := ⟨t, false, e⟩
    (∀ offset line column : Nat,
      offset ≤ t.length → line < p.lineCount →
        ∃ q o, p.positionOf offset = .ok q ∧
          p.offsetOf line column = .ok o ∧
          (q ≤ ⟨line, column⟩ ↔ offset ≤ o)) ∧
    (∀ first second : Nat,
      first < second → second ≤ t.length →
        ∃ q r, p.positionOf first = .ok q ∧
          p.positionOf second = .ok r ∧ q < r) ∧
    (∀ offset : Nat, offset ≤ t.length →
      ∃ q, p.positionOf offset = .ok q ∧
        p.offsetOf q.line q.character = .ok offset) := by
  intro p
  refine ⟨?_, ?_, ?_⟩
  · intro offset line column hOffset hLine
    refine ⟨_, _, p.positionOf_of_le hOffset,
      p.offsetOf_of_lt hLine (by simp [p]), ?_⟩
    exact p.place_le_iff_le_offsetIn hOffset hLine column
  · intro first second hLess hSecond
    have hFirst : first ≤ p.text.length := by
      exact Nat.le_trans (Nat.le_of_lt hLess) hSecond
    exact ⟨_, _, p.positionOf_of_le hFirst,
      p.positionOf_of_le hSecond,
      p.place_lt_place hLess hSecond⟩
  · intro offset hOffset
    exact ⟨_, p.positionOf_of_le hOffset,
      p.offsetOf_place hOffset⟩

/-
  A text with a break of two characters and a character of
  two code units: the offset between the two halves of the
  break, and a column in the middle of the character.
-/
theorem positionOf_offsetOf_galois_break :
    let t : Text := ['a', '\r', '\n', '😀', 'b']
    let p : PositionTable := ⟨t, false, .utf16⟩
    2 ≤ t.length ∧ 1 < p.lineCount ∧
    (∃ q o, p.positionOf (2 : Nat) = .ok q ∧
      p.offsetOf (1 : Nat) (1 : Nat) = .ok o ∧
      (q ≤ ⟨1, 1⟩ ↔ 2 ≤ o)) ∧
    (∃ q r, p.positionOf (2 : Nat) = .ok q ∧
      p.positionOf (5 : Nat) = .ok r ∧ q < r) ∧
    (∃ q, p.positionOf (2 : Nat) = .ok q ∧
      p.offsetOf q.line q.character = .ok 2) := by
  intro t p
  have hGalois := positionOf_offsetOf_galois t .utf16
  refine ⟨by decide, by decide, ?_, ?_, ?_⟩
  · exact hGalois.1 2 1 1 (by decide) (by decide)
  · exact hGalois.2.1 2 5 (by decide) (by decide)
  · exact hGalois.2.2 2 (by decide)

end PositionTable

end ProseCheck

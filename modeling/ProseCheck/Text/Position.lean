import ProseCheck.Number.Numeral
import ProseCheck.Record
import ProseCheck.Text.Encoding
import ProseCheck.Text.Lines

/-
  This file translates between offsets into a text and the
  positions that an editor speaks of: a line, and a column
  counted in the code units of an encoding.

  A table is lenient or strict.  A lenient one moves what
  lies outside of the text to its nearest end; a strict one
  refuses it.

  Key definitions include:
    * `Position`
    * `Range`
    * `Refusal`
    * `PositionTable`
    * `PositionTable.positionOf`
    * `PositionTable.offsetOf`
-/

------------------------------------------------------------
-- Positions and Ranges
------------------------------------------------------------

namespace ProseCheck

/- A place in a text: a line and a column, both from zero. -/
structure Position where
  line : Nat
  character : Nat
deriving DecidableEq, Repr

/- A stretch of text between two positions. -/
structure Range where
  start : Position
  stop : Position
deriving DecidableEq, Repr

namespace Position

/- The order of the text: by line, then by column. -/
def le
    (p q : Position) : Prop :=
  p.line < q.line ∨
    (p.line = q.line ∧ p.character ≤ q.character)

instance : LE Position where
  le := le

instance
    (p q : Position) :
    Decidable (p ≤ q) := by
  change Decidable (le p q)
  unfold le
  infer_instance

end Position

end ProseCheck

------------------------------------------------------------
-- Errors
------------------------------------------------------------

namespace ProseCheck

/-
  An offset that lies outside of what it points into, with
  the length and the name of what it should point into.  The
  two numbers are part of the wording, so they have to be
  short enough to be written.
-/
structure OutOfRange where
  offset : Int
  length : Int
  what : String
  offset_writable : IsWritable offset
  length_writable : IsWritable length
deriving DecidableEq, Repr

namespace OutOfRange

/- The wording of the error. -/
def message
    (e : OutOfRange) : String :=
  "Offset " ++ toString e.offset ++ " is outside the " ++
    e.what ++ " (length " ++ toString e.length ++ ")"

end OutOfRange

/-
  Why an offset is refused.  It lies outside, and if this
  cannot even be said, there is an error of another kind.
-/
inductive Refusal where
  | outOfRange (e : OutOfRange)
  | unwritable
deriving DecidableEq, Repr

namespace Refusal

/- The refusal of an offset that lies outside. -/
def outside
    (offset length : Int)
    (what : String) : Refusal :=
  if h : IsWritable offset ∧ IsWritable length then
    .outOfRange ⟨offset, length, what, h.1, h.2⟩
  else
    .unwritable

/- The wording of the error. -/
def message : Refusal → String
  | .outOfRange e => e.message
  | .unwritable => limitMessage ""

end Refusal

end ProseCheck

------------------------------------------------------------
-- Position Tables
------------------------------------------------------------

namespace ProseCheck

/- What is needed to place offsets and positions in a text. -/
structure PositionTable where
  text : Text
  strict : Bool := false
  encoding : Encoding := Encoding.default

namespace PositionTable

/- The offset at which each line starts. -/
def starts
    (p : PositionTable) : List Nat :=
  lineStarts p.text

/- The number of lines.  There is always at least one. -/
def lineCount
    (p : PositionTable) : Nat :=
  p.starts.length

/- Whether an offset lies in the text or at its end. -/
def Holds
    (p : PositionTable)
    (offset : Int) : Prop :=
  0 ≤ offset ∧ offset ≤ p.text.length

instance
    (p : PositionTable)
    (offset : Int) :
    Decidable (p.Holds offset) := by
  unfold Holds
  infer_instance

/- The offset itself, or the nearest one in the text. -/
def nearestOffset
    (p : PositionTable)
    (offset : Int) : Nat :=
  min offset.toNat p.text.length

/- The offset that is meant, as far as the table allows it. -/
def clampOffset
    (p : PositionTable)
    (offset : Int) : Except Refusal Nat :=
  if p.strict ∧ ¬ p.Holds offset then
    .error (.outside offset p.text.length "text")
  else
    .ok (p.nearestOffset offset)

/-
  What a lenient table reports of an offset that it moves.  A
  record that cannot be written is lost.
-/
def clampRecords
    (p : PositionTable)
    (offset : Int) : List LogRecord :=
  if p.Holds offset ∨ p.strict ∨ ¬ IsWritable offset then []
  else
    [⟨.warning,
      "Offset " ++ toString offset ++
        " outside document of length " ++
        toString p.text.length ++ "; clamping"⟩]

/- The line itself, or the nearest line of the text. -/
def nearestLine
    (p : PositionTable)
    (line : Int) : Nat :=
  min line.toNat (p.lineCount - 1)

/- The line that is meant, as far as the table allows it. -/
def clampLine
    (p : PositionTable)
    (line : Int) : Except Refusal Nat :=
  if p.strict ∧ ¬ (0 ≤ line ∧ line < p.lineCount) then
    .error (.outside line p.lineCount "line table")
  else
    .ok (p.nearestLine line)

end PositionTable

end ProseCheck

------------------------------------------------------------
-- Lines of a Table
------------------------------------------------------------

namespace ProseCheck

namespace PositionTable

/- The offset at which an existing line starts. -/
def startOf
    (p : PositionTable)
    (line : Nat) : Nat :=
  p.starts.getD line 0

/- The offset of the first character of a line. -/
def lineStart
    (p : PositionTable)
    (line : Int) : Except Refusal Nat :=
  (p.clampLine line).map p.startOf

/- The offset at which the break of an existing line begins. -/
def endOf
    (p : PositionTable)
    (line : Nat) : Nat :=
  match p.starts[line + 1]? with
  | none => p.text.length
  | some next => breakStart p.text next

/- The offset just past the last character of a line. -/
def lineEnd
    (p : PositionTable)
    (line : Int) : Except Refusal Nat :=
  (p.clampLine line).map p.endOf

/-
  The last offset of an existing line: the end of the text,
  or the last character of the break of the line.
-/
def lastOf
    (p : PositionTable)
    (line : Nat) : Nat :=
  match p.starts[line + 1]? with
  | none => p.text.length
  | some next => next - 1

/- The existing line that an offset of the text lies on. -/
def lineAt
    (p : PositionTable)
    (offset : Nat) : Nat :=
  p.starts.countP (· ≤ offset) - 1

end PositionTable

end ProseCheck

------------------------------------------------------------
-- Translation
------------------------------------------------------------

namespace ProseCheck

namespace PositionTable

/- The position of an offset that lies in the text. -/
def place
    (p : PositionTable)
    (offset : Nat) : Position :=
  let line := p.lineAt offset
  ⟨line,
    p.encoding.units
      (p.text.slice (p.startOf line) offset)⟩

/- The position of an offset. -/
def positionOf
    (p : PositionTable)
    (offset : Int) : Except Refusal Position :=
  (p.clampOffset offset).map p.place

/- The range between two offsets. -/
def rangeOf
    (p : PositionTable)
    (start stop : Int) : Except Refusal Range := do
  let first ← p.positionOf start
  let last ← p.positionOf stop
  return ⟨first, last⟩

/- What is reported while the range of two offsets is found. -/
def rangeRecords
    (p : PositionTable)
    (start stop : Int) : List LogRecord :=
  p.clampRecords start ++ p.clampRecords stop

/-
  The offset of a line and column.  A column past the end of
  its line means the last offset of the line, and a column
  inside of a character means the start of that character.
-/
def offsetOf
    (p : PositionTable)
    (line character : Int) : Except Refusal Nat := do
  let line ← p.clampLine line
  let start := p.startOf line
  let last := p.lastOf line
  let content := p.text.slice start last
  let column := character.toNat
  if p.strict ∧ p.encoding.units content < column then
    throw (.outside column (last - start : Nat) s!"line {line}")
  return start + p.encoding.reach content column

end PositionTable

end ProseCheck

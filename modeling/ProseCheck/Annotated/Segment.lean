import ProseCheck.Text.Basic

/-
  This file defines segments: contiguous runs of a source
  that either count as text or are markup.  The text of a
  segment may differ from the characters that it stands for,
  as for a character that is written by its name.

  Key definitions include:
    * `Segment`
    * `Segment.isIdentity`
    * `Segment.originalStart`
    * `Segment.originalEnd`
-/

------------------------------------------------------------
-- Segments
------------------------------------------------------------

namespace ProseCheck

/- What a run of source characters counts as. -/
inductive SegmentKind where
  | text
  | markup
deriving DecidableEq, Repr

namespace SegmentKind

/- The name under which a kind is written. -/
def name : SegmentKind → String
  | .text => "text"
  | .markup => "markup"

end SegmentKind

/-
  A run of a source, from the offset `start` up to the offset
  `stop`.  The content of a text segment is what is read for
  the run; that of a markup segment is the run itself.
-/
structure Segment where
  kind : SegmentKind
  start : Int
  stop : Int
  content : Text
deriving DecidableEq, Repr

namespace Segment

/- The number of source characters that a segment covers. -/
def span
    (s : Segment) : Int :=
  s.stop - s.start

/-
  Whether each character of the content stands on a source
  character of its own.
-/
def isIdentity
    (s : Segment) : Bool :=
  s.content.length == s.span

/- What a segment adds to the plain text. -/
def contribution
    (s : Segment) : Text :=
  match s.kind with
  | .text => s.content
  | .markup => []

/- Whether a segment adds something to the plain text. -/
def isTextual
    (s : Segment) : Bool :=
  !s.contribution.isEmpty

/- The source offset at which a content character begins. -/
def originalStart
    (s : Segment)
    (index : Int) : Int :=
  if s.isIdentity then s.start + index
  else s.start + min index (max (s.span - 1) 0)

/- The source offset just past a content character. -/
def originalEnd
    (s : Segment)
    (index : Int) : Int :=
  if s.isIdentity then s.start + index + 1
  else if s.content.length - 1 ≤ index then s.stop
  else min (s.start + index + 1) s.stop

end Segment

end ProseCheck

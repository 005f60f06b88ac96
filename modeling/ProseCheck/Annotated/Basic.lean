import ProseCheck.Annotated.Search
import ProseCheck.Annotated.Segment
import ProseCheck.Text.Position

/-
  This file defines annotated texts: a source cut into text
  and markup.  The text segments make up the plain text, and
  offsets translate between it and the source.

  Key definitions include:
    * `AnnotatedText`
    * `AnnotatedText.plainText`
    * `AnnotatedText.originalOffset`
    * `AnnotatedText.plainOffset`
-/

------------------------------------------------------------
-- Annotated Texts
------------------------------------------------------------

namespace ProseCheck

/- A source of a given length, cut into segments. -/
structure AnnotatedText where
  segments : List Segment
  sourceLength : Int
deriving DecidableEq, Repr

namespace AnnotatedText

/- The annotated text whose plain text is the whole source. -/
def identity
    (t : Text) : AnnotatedText :=
  if t.isEmpty then ⟨[], 0⟩
  else ⟨[⟨.text, 0, t.length, t⟩], t.length⟩

/- What remains of the source without its markup. -/
def plainText
    (a : AnnotatedText) : Text :=
  a.segments.flatMap Segment.contribution

/-
  Each segment with the plain offset at which it starts,
  where the first of them starts at `offset`.
-/
def placeFrom
    (offset : Nat) : List Segment → List (Nat × Segment)
  | [] => []
  | s :: ss =>
      (offset, s) ::
        placeFrom (offset + s.contribution.length) ss

/- Each segment with the plain offset at which it starts. -/
def placed
    (a : AnnotatedText) : List (Nat × Segment) :=
  placeFrom 0 a.segments

/- The segments that add something to the plain text. -/
def textual
    (a : AnnotatedText) : List (Nat × Segment) :=
  a.placed.filter (fun p => p.2.isTextual)

end AnnotatedText

end ProseCheck

------------------------------------------------------------
-- From the Plain Text to the Source
------------------------------------------------------------

namespace ProseCheck

namespace AnnotatedText

/-
  The entry that holds a plain offset, among the entries of
  the segments that add to the plain text.
-/
def holder?
    (entries : List (Nat × Segment))
    (offset : Nat) : Option (Nat × Segment) :=
  let starts := entries.map (fun p => (p.1 : Int))
  entries[insertionPoint starts offset - 1]?

/- The source offset at which a plain character begins. -/
def startOf
    (entries : List (Nat × Segment))
    (offset : Nat) : Int :=
  match holder? entries offset with
  | some (start, s) => s.originalStart (offset - start)
  | none => 0

/- The source offset just past a plain character. -/
def endOf
    (entries : List (Nat × Segment))
    (offset : Nat) : Int :=
  match holder? entries offset with
  | some (start, s) => s.originalEnd (offset - start)
  | none => 0

/-
  The source offset of a plain offset.  As the end of a
  range, it lies just past the plain character before it, so
  that a range does not stretch over markup that follows.
-/
def originalOffset
    (a : AnnotatedText)
    (offset : Int)
    (isEnd : Bool := false) : Except Refusal Int :=
  let length := a.plainText.length
  if offset < 0 ∨ length < offset then
    .error (.outside offset length "analyzable text")
  else
    let entries := a.textual
    match entries.getLast? with
    | none => .ok 0
    | some (_, last) =>
        if isEnd ∧ 0 < offset then
          .ok (endOf entries (offset.toNat - 1))
        else if offset = length then
          .ok last.stop
        else
          .ok (startOf entries offset.toNat)

end AnnotatedText

end ProseCheck

------------------------------------------------------------
-- From the Source to the Plain Text
------------------------------------------------------------

namespace ProseCheck

namespace AnnotatedText

/- The plain offset of a source offset inside of a segment. -/
def plainWithin
    (start : Nat)
    (s : Segment)
    (offset : Int) : Int :=
  match s.kind with
  | .markup => start
  | .text =>
      let index := offset - s.start
      let index :=
        if s.isIdentity then index
        else if index < s.span then 0
        else s.content.length
      start + min index s.content.length

/-
  The entry of the last segment that starts at or before a
  source offset.  Where none does, it is the last of all.
-/
def covering?
    (entries : List (Nat × Segment))
    (offset : Int) : Option (Nat × Segment) :=
  let starts := entries.map (fun p => p.2.start)
  match insertionPoint starts offset with
  | 0 => entries.getLast?
  | n + 1 => entries[n]?

/-
  The plain offset of a source offset.  All of a markup
  segment has the plain offset at which it was left out.
-/
def plainOffset
    (a : AnnotatedText)
    (offset : Int) : Except Refusal Int :=
  if offset < 0 ∨ a.sourceLength < offset then
    .error (.outside offset a.sourceLength "source")
  else if offset = a.sourceLength then
    .ok a.plainText.length
  else
    match covering? a.placed offset with
    | none => .ok a.plainText.length
    | some (start, s) => .ok (plainWithin start s offset)

end AnnotatedText

end ProseCheck

import ProseCheck.Annotated.Builder
import ProseCheck.Text.Lines
import ProseCheck.Tree.Node

/-
  This file reads a document tree as an annotated text.  Each
  source character is taken once:

    * the stretch of a text node gives the node's content;
    * a line break between text nodes gives one space inside
      of a paragraph, and itself elsewhere;
    * every other character is markup.

  Key definitions include:
    * `AnnotationError`
    * `gapSegments`
    * `Walk.visit`
    * `annotate`
-/

------------------------------------------------------------
-- Errors
------------------------------------------------------------

namespace ProseCheck

/- Why a tree cannot be read. -/
inductive AnnotationError where
  | nestedParagraph
  | overlap (start stop reached : Int)
  | segment (e : SegmentError)
deriving DecidableEq, Repr

namespace AnnotationError

/- The wording of the error. -/
def message : AnnotationError → String
  | .nestedParagraph => "Nested paragraphs are not supported"
  | .overlap start stop reached =>
      "Text node at " ++ SegmentError.interval start stop ++
        " overlaps consumed source up to " ++
        toString reached
  | .segment e => e.message

end AnnotationError

end ProseCheck

------------------------------------------------------------
-- Gaps
------------------------------------------------------------

namespace ProseCheck

/- What is read for a line break. -/
def breakContent
    (inProse : Bool)
    (characters : Text) : Text :=
  if inProse then [' '] else characters

/- The markup up to the offset `stop`, if there is any. -/
def markupBefore
    (start stop : Int)
    (run : Text) : List Segment :=
  if start < stop then [⟨.markup, start, stop, run⟩] else []

/-
  The segments of the characters between two nodes.  The
  characters of the current run of markup, which begins at
  `start`, are in `run`, the last one first.  The characters
  that are left begin at `position`, and the gap goes on to
  `stop` even if the source does not.
-/
def gapSegments
    (inProse : Bool)
    (stop start position : Int)
    (run : Text) : Text → List Segment
  | [] => markupBefore start stop run.reverse
  | '\r' :: '\n' :: cs =>
      markupBefore start position run.reverse ++
        ⟨.text, position, position + 2,
          breakContent inProse ['\r', '\n']⟩ ::
        gapSegments inProse stop (position + 2)
          (position + 2) [] cs
  | c :: cs =>
      if isBreakChar c then
        markupBefore start position run.reverse ++
          ⟨.text, position, position + 1,
            breakContent inProse [c]⟩ ::
          gapSegments inProse stop (position + 1)
            (position + 1) [] cs
      else
        gapSegments inProse stop start (position + 1)
          (c :: run) cs

end ProseCheck

------------------------------------------------------------
-- The Walk
------------------------------------------------------------

namespace ProseCheck

/- How far the source is taken, and the segments so far. -/
structure Walk where
  reached : Int
  builder : Builder
deriving DecidableEq, Repr

namespace Walk

/- The walk before the first character. -/
def start : Walk :=
  ⟨0, Builder.empty⟩

/- Add segments to a walk, up to the offset `stop`. -/
def take
    (w : Walk)
    (stop : Int)
    (segments : List Segment) :
    Except AnnotationError Walk :=
  match w.builder.addAll segments with
  | .ok b => .ok ⟨stop, b⟩
  | .error e => .error (.segment e)

/- Take the characters up to `stop` that no node accounts for. -/
def gap
    (source : Text)
    (inProse : Bool)
    (stop : Int)
    (w : Walk) : Except AnnotationError Walk :=
  if stop ≤ w.reached then
    .ok w
  else
    w.take stop
      (gapSegments inProse stop w.reached w.reached []
        (source.slice w.reached.toNat stop.toNat))

mutual

/-
  Take a node.  The flag says whether it lies in a paragraph,
  where no second paragraph may begin.
-/
def visit
    (source : Text)
    (inProse : Bool) :
    Node → Walk → Except AnnotationError Walk
  | ⟨kind, start, stop, content, children⟩, w =>
      match kind with
      | .paragraph =>
          if inProse then
            .error .nestedParagraph
          else do
            let w ← w.gap source false start
            let w ← visitAll source true children w
            w.gap source true stop
      | .text =>
          if start < w.reached then
            .error (.overlap start stop w.reached)
          else do
            let w ← w.gap source inProse start
            w.take stop [⟨.text, start, stop, content⟩]
      | _ => visitAll source inProse children w

/- Take nodes in the order of the document. -/
def visitAll
    (source : Text)
    (inProse : Bool) :
    List Node → Walk → Except AnnotationError Walk
  | [], w => .ok w
  | n :: ns, w => do
      let w ← visit source inProse n w
      visitAll source inProse ns w

end

end Walk

end ProseCheck

------------------------------------------------------------
-- Annotation
------------------------------------------------------------

namespace ProseCheck

/- The annotated text of a source under a tree. -/
def annotate
    (source : Text)
    (root : Node) : Except AnnotationError AnnotatedText := do
  let w ← Walk.visit source false root Walk.start
  let w ← w.gap source false source.length
  match w.builder.build source.length with
  | .ok a => .ok a
  | .error e => .error (.segment e)

end ProseCheck

import ProseCheck.Annotated.Basic

/-
  This file builds annotated texts one segment at a time.
  Segments join without a gap, and a segment is merged into
  the one before it where the two read as one.

  Key definitions include:
    * `Builder`
    * `Builder.offer`
    * `Builder.add`
    * `Builder.build`
-/

------------------------------------------------------------
-- Errors
------------------------------------------------------------

namespace ProseCheck

/- Why a segment is not accepted, or a text is not finished. -/
inductive SegmentError where
  | misplaced (start stop expected : Int)
  | reversed (start stop : Int)
  | incomplete (reached length : Int)
deriving DecidableEq, Repr

namespace SegmentError

/- Two offsets as the interval between them. -/
def interval
    (start stop : Int) : String :=
  "[" ++ toString start ++ ", " ++ toString stop ++ ")"

/- The wording of the error. -/
def message : SegmentError → String
  | .misplaced start stop expected =>
      "Segment " ++ interval start stop ++
        " does not start at " ++ toString expected
  | .reversed start stop =>
      "Segment " ++ interval start stop ++ " is reversed"
  | .incomplete reached length =>
      "Segments cover " ++ interval 0 reached ++
        " but the source has " ++ toString length ++
        " characters"

end SegmentError

end ProseCheck

------------------------------------------------------------
-- Builders
------------------------------------------------------------

namespace ProseCheck

/- The segments accepted so far, the last one first. -/
structure Builder where
  recent : List Segment
deriving DecidableEq, Repr

namespace Builder

/- A builder that has accepted nothing. -/
def empty : Builder :=
  ⟨[]⟩

/- The segments accepted so far, in the order of the source. -/
def segments
    (b : Builder) : List Segment :=
  b.recent.reverse

/- The offset up to which the source is covered. -/
def reached
    (b : Builder) : Int :=
  match b.recent with
  | [] => 0
  | s :: _ => s.stop

/- Whether a segment can be merged into the one before it. -/
def mergeable
    (previous next : Segment) : Bool :=
  previous.kind == next.kind &&
    (next.kind == .markup ||
      (previous.isIdentity && next.isIdentity))

/- One segment in the place of two neighbours. -/
def merge
    (previous next : Segment) : Segment :=
  ⟨next.kind, previous.start, next.stop,
    previous.content ++ next.content⟩

/- Put an accepted segment behind the others. -/
def push
    (s : Segment) : List Segment → List Segment
  | [] => [s]
  | previous :: older =>
      if mergeable previous s then
        merge previous s :: older
      else
        s :: previous :: older

/-
  Offer a segment to a builder, which is changed on the way.
  A segment with neither span nor content leaves no trace.
-/
def offer
    (s : Segment) : EStateM SegmentError Builder Unit := do
  let b ← get
  if s.start ≠ b.reached then
    throw (.misplaced s.start s.stop b.reached)
  else if s.stop < s.start then
    throw (.reversed s.start s.stop)
  else if s.span = 0 ∧ s.content = [] then
    return
  else
    set (Builder.mk (push s b.recent))

/- Accept one more segment. -/
def add
    (b : Builder)
    (s : Segment) : Except SegmentError Builder :=
  match (offer s).run b with
  | .ok () next => .ok next
  | .error e _ => .error e

/- The outcome of an offer, with the builder that is left. -/
theorem run_offer
    (b : Builder)
    (s : Segment) :
    (offer s).run b =
      if s.start ≠ b.reached then
        .error (.misplaced s.start s.stop b.reached) b
      else if s.stop < s.start then
        .error (.reversed s.start s.stop) b
      else if s.span = 0 ∧ s.content = [] then
        .ok () b
      else
        .ok () ⟨push s b.recent⟩ := by
  change (ite _ _ _ : EStateM SegmentError Builder Unit).run b
    = _
  split
  · rfl
  split
  · rfl
  split <;> rfl

/- A segment is accepted if the offer ends well. -/
theorem add_eq
    (b : Builder)
    (s : Segment) :
    b.add s =
      if s.start ≠ b.reached then
        .error (.misplaced s.start s.stop b.reached)
      else if s.stop < s.start then
        .error (.reversed s.start s.stop)
      else if s.span = 0 ∧ s.content = [] then
        .ok b
      else
        .ok ⟨push s b.recent⟩ := by
  rw [add, run_offer]
  by_cases hStart : s.start ≠ b.reached
  · simp only [if_pos hStart]
  by_cases hOrder : s.stop < s.start
  · simp only [if_neg hStart, if_pos hOrder]
  by_cases hVacant : s.span = 0 ∧ s.content = []
  · simp only [if_neg hStart, if_neg hOrder, if_pos hVacant]
  · simp only [if_neg hStart, if_neg hOrder, if_neg hVacant]

/- Accept several segments, the first one first. -/
def addAll
    (b : Builder) : List Segment →
    Except SegmentError Builder
  | [] => .ok b
  | s :: ss => do
      let b ← b.add s
      b.addAll ss

/- The annotated text of a source that is covered in full. -/
def build
    (b : Builder)
    (length : Int) : Except SegmentError AnnotatedText :=
  if b.reached ≠ length then
    .error (.incomplete b.reached length)
  else
    .ok ⟨b.segments, length⟩

end Builder

end ProseCheck

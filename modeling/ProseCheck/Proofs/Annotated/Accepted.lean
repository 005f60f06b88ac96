import ProseCheck.Proofs.Annotated.Cover

/-
  This file says what becomes of the segments that a builder
  accepts.  They follow each other from where the builder has
  come, and whether they are merged or not, their text and
  their markup are kept, in their order.

  Main declarations:
    * `Builder.add_cases`
    * `Builder.addAll_append`
    * `Builder.Sound.of_addAll`
    * `Builder.Sound.of_build`
    * `Builder.contents_addAll`
    * `Builder.plain_addAll`
-/

------------------------------------------------------------
-- Accepted Segments
------------------------------------------------------------

namespace ProseCheck

namespace Builder

variable {b next : Builder}

/-
  A segment that is accepted goes on from where the builder
  has come.  It is put behind the others, unless it has
  neither span nor content.
-/
theorem add_cases
    {s : Segment}
    (hAdd : b.add s = .ok next) :
    s.start = b.reached ∧ s.start ≤ s.stop ∧
      ((s.span = 0 ∧ s.content = [] ∧ next = b) ∨
        next = ⟨push s b.recent⟩) := by
  rw [add_eq] at hAdd
  split at hAdd
  · cases hAdd
  split at hAdd
  · cases hAdd
  rename_i hStart hOrder
  refine ⟨not_not.mp hStart, Int.not_lt.mp hOrder, ?_⟩
  split at hAdd
  · rename_i hEmpty
    cases hAdd
    exact Or.inl ⟨hEmpty.1, hEmpty.2, rfl⟩
  · cases hAdd
    exact Or.inr rfl

/- Segments are accepted one after the other. -/
theorem addAll_cons_eq_ok_iff
    (s : Segment)
    (ss : List Segment) :
    b.addAll (s :: ss) = .ok next ↔
      ∃ middle, b.add s = .ok middle ∧
        middle.addAll ss = .ok next := by
  rw [addAll]
  cases hAdd : b.add s with
  | ok middle =>
      constructor
      · intro hRest
        exact ⟨middle, rfl, hRest⟩
      · rintro ⟨_, hSame, hRest⟩
        cases hSame
        exact hRest
  | error e =>
      constructor
      · intro hRest
        cases hRest
      · rintro ⟨_, hSame, _⟩
        cases hSame

/- Segments are accepted in one go as well as in two. -/
theorem addAll_append
    {middle : Builder}
    {ss ts : List Segment}
    (hFirst : b.addAll ss = .ok middle)
    (hRest : middle.addAll ts = .ok next) :
    b.addAll (ss ++ ts) = .ok next := by
  induction ss generalizing b with
  | nil =>
      cases hFirst
      exact hRest
  | cons s ss ih =>
      rcases (addAll_cons_eq_ok_iff s ss).mp hFirst with
        ⟨later, hAdd, hLater⟩
      rw [List.cons_append, addAll_cons_eq_ok_iff]
      exact ⟨later, hAdd, ih hLater⟩

/- A builder stays sound with all that it accepts. -/
theorem Sound.of_addAll
    (hSound : b.Sound)
    {ss : List Segment}
    (hAdd : b.addAll ss = .ok next) :
    next.Sound := by
  induction ss generalizing b with
  | nil =>
      cases hAdd
      exact hSound
  | cons s ss ih =>
      rcases (addAll_cons_eq_ok_iff s ss).mp hAdd with
        ⟨middle, hFirst, hRest⟩
      rcases add_cases hFirst with ⟨hStart, hOrder, _⟩
      rcases add_of_start hSound hStart hOrder with
        ⟨other, hOther, hMiddle, _⟩
      obtain rfl : middle = other :=
        Except.ok.inj (hFirst.symm.trans hOther)
      exact ih hMiddle hRest

/- The text that is built has the segments of the builder. -/
theorem Sound.of_build
    (hSound : b.Sound)
    {length : Nat}
    {a : AnnotatedText}
    (hBuild : b.build length = .ok a) :
    a.segments = b.segments ∧ a.Covers length := by
  rw [build] at hBuild
  split at hBuild
  · cases hBuild
  · rename_i hReached
    rw [not_not] at hReached
    cases hBuild
    refine ⟨rfl, rfl, ?_⟩
    rw [← hReached]
    exact hSound

end Builder

end ProseCheck

------------------------------------------------------------
-- Accepted Content
------------------------------------------------------------

namespace ProseCheck

namespace Segment

/- What a segment says if it is of a kind. -/
def contentAs
    (kind : SegmentKind)
    (s : Segment) : Text :=
  if s.kind = kind then s.content else []

/- A segment adds to the plain text what it says as text. -/
theorem contribution_eq_contentAs
    (s : Segment) :
    s.contribution = s.contentAs .text := by
  unfold contribution contentAs
  cases s.kind <;> rfl

end Segment

namespace Builder

/- What the segments of a kind say that were accepted so far. -/
def contents
    (b : Builder)
    (kind : SegmentKind) : Text :=
  b.segments.flatMap (Segment.contentAs kind)

variable (kind : SegmentKind)

/- Nothing is accepted at first. -/
@[simp]
theorem contents_empty : empty.contents kind = [] := rfl

/- A merged segment says what the two neighbours say. -/
theorem contentAs_merge
    {previous next : Segment}
    (hMerge : mergeable previous next = true) :
    (merge previous next).contentAs kind =
      previous.contentAs kind ++ next.contentAs kind := by
  have hKind : previous.kind = next.kind := by
    rw [mergeable, Bool.and_eq_true, beq_iff_eq] at hMerge
    exact hMerge.1
  unfold Segment.contentAs merge
  rw [hKind]
  split <;> rfl

/- What a segment says comes behind what the others say. -/
theorem contents_push
    (s : Segment)
    (older : List Segment) :
    (Builder.mk (push s older)).contents kind =
      (Builder.mk older).contents kind ++
        s.contentAs kind := by
  cases older with
  | nil => simp [contents, segments, push]
  | cons previous older =>
      rw [push]
      split
      · rename_i hMerge
        simp [contents, segments, contentAs_merge _ hMerge]
      · simp [contents, segments]

/- What accepted segments say comes in their order. -/
theorem contents_addAll
    {b next : Builder}
    {ss : List Segment}
    (hAdd : b.addAll ss = .ok next) :
    next.contents kind =
      b.contents kind ++
        ss.flatMap (Segment.contentAs kind) := by
  induction ss generalizing b with
  | nil =>
      cases hAdd
      simp
  | cons s ss ih =>
      rcases (addAll_cons_eq_ok_iff s ss).mp hAdd with
        ⟨middle, hFirst, hRest⟩
      rw [ih hRest, List.flatMap_cons, ← List.append_assoc]
      congr 1
      rcases add_cases hFirst with
        ⟨_, _, ⟨_, hEmpty, rfl⟩ | rfl⟩
      · unfold Segment.contentAs
        split <;> simp [hEmpty]
      · exact contents_push kind s b.recent

end Builder

end ProseCheck

------------------------------------------------------------
-- Accepted Text
------------------------------------------------------------

namespace ProseCheck

namespace Builder

/- The plain text of the segments accepted so far. -/
def plain
    (b : Builder) : Text :=
  b.segments.flatMap Segment.contribution

/- Nothing is accepted at first. -/
@[simp]
theorem plain_empty : empty.plain = [] := rfl

/- A merged segment adds what the two neighbours add. -/
theorem contribution_merge
    {previous next : Segment}
    (hMerge : mergeable previous next = true) :
    (merge previous next).contribution =
      previous.contribution ++ next.contribution := by
  simp only [Segment.contribution_eq_contentAs]
  exact contentAs_merge .text hMerge

/- The text of accepted segments comes in their order. -/
theorem plain_addAll
    {b next : Builder}
    {ss : List Segment}
    (hAdd : b.addAll ss = .ok next) :
    next.plain =
      b.plain ++ ss.flatMap Segment.contribution := by
  have hText :
      Segment.contribution = Segment.contentAs .text :=
    funext Segment.contribution_eq_contentAs
  rw [plain, plain, hText]
  exact contents_addAll .text hAdd

end Builder

end ProseCheck

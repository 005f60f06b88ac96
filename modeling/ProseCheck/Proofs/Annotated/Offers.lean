import Mathlib.Data.List.Chain
import ProseCheck.Proofs.Annotated.Accepted

/-
  This file follows a builder through any segments that it is
  offered, also through those that it refuses.  Every offer
  is made to the builder that the last one has left.  A
  refused segment leaves no trace: the builder is the one
  that was offered the accepted segments alone.

  Whatever comes, the segments of a builder follow each other
  from zero, none of them is vacant, and no two neighbours
  could still be merged.  Their text and their markup are the
  accepted text and the accepted markup.

  Main declarations:
    * `Builder.eq_of_offer_error`
    * `Builder.offerAll`
    * `Builder.addAll_accepted`
    * `Builder.accepted_eq_fitting`
    * `Builder.Normal`
    * `Builder.offerAll_normal`
-/

------------------------------------------------------------
-- Refused Segments
------------------------------------------------------------

namespace ProseCheck

namespace Builder

variable {b next : Builder}

/- An offer that ends well accepts the segment. -/
theorem add_of_offer
    {s : Segment}
    (hOffer : (offer s).run b = .ok () next) :
    b.add s = .ok next := by
  rw [add, hOffer]

/- An offer that fails leaves the builder as it was. -/
theorem eq_of_offer_error
    {s : Segment}
    {e : SegmentError}
    (hOffer : (offer s).run b = .error e next) :
    next = b := by
  rw [run_offer] at hOffer
  split at hOffer
  · cases hOffer
    rfl
  split at hOffer
  · cases hOffer
    rfl
  split at hOffer <;> cases hOffer

/- An offer fails if it leaves a gap or goes backward. -/
theorem offer_fails_iff
    (b : Builder)
    (s : Segment) :
    (∃ e next, (offer s).run b = .error e next) ↔
      s.start ≠ b.reached ∨ s.stop < s.start := by
  rw [run_offer]
  by_cases hStart : s.start ≠ b.reached
  · rw [if_pos hStart]
    exact iff_of_true ⟨_, _, rfl⟩ (Or.inl hStart)
  by_cases hOrder : s.stop < s.start
  · rw [if_neg hStart, if_pos hOrder]
    exact iff_of_true ⟨_, _, rfl⟩ (Or.inr hOrder)
  · rw [if_neg hStart, if_neg hOrder]
    refine iff_of_false ?_ (not_or.mpr ⟨hStart, hOrder⟩)
    rintro ⟨e, next, hFail⟩
    split at hFail <;> cases hFail

/- An accepted segment is reached up to its end. -/
theorem reached_add
    {s : Segment}
    (hAdd : b.add s = .ok next) :
    next.reached = s.stop := by
  rcases add_cases hAdd with
    ⟨hStart, _, ⟨hSpan, _, rfl⟩ | rfl⟩
  · unfold Segment.span at hSpan
    omega
  · exact reached_push s b.recent

end Builder

end ProseCheck

------------------------------------------------------------
-- Offered Segments
------------------------------------------------------------

namespace ProseCheck

namespace Builder

/-
  The builder after segments were offered to it, the first one
  first.  It goes on from what an offer has left, also if the
  offer failed.
-/
def offerAll
    (b : Builder) : List Segment → Builder
  | [] => b
  | s :: ss =>
      match (offer s).run b with
      | .ok () next => next.offerAll ss
      | .error _ next => next.offerAll ss

/- Those of the segments whose offers do not fail. -/
def accepted
    (b : Builder) : List Segment → List Segment
  | [] => []
  | s :: ss =>
      match (offer s).run b with
      | .ok () next => s :: next.accepted ss
      | .error _ next => next.accepted ss

/-
  A builder that is offered segments is the one to which the
  accepted ones were added.  The others leave no trace.
-/
theorem addAll_accepted
    (b : Builder)
    (offered : List Segment) :
    b.addAll (b.accepted offered) =
      .ok (b.offerAll offered) := by
  induction offered generalizing b with
  | nil => rfl
  | cons s ss ih =>
      rw [accepted, offerAll]
      cases hOffer : (offer s).run b with
      | ok _ next =>
          exact (addAll_cons_eq_ok_iff s _).mpr
            ⟨next, add_of_offer hOffer, ih next⟩
      | error e next =>
          rw [eq_of_offer_error hOffer]
          exact ih b

end Builder

namespace Segment

/-
  Those of some segments that go on from an offset, each from
  where the one before it has ended.
-/
def fitting
    (reached : Int) : List Segment → List Segment
  | [] => []
  | s :: ss =>
      if s.start = reached ∧ s.start ≤ s.stop then
        s :: fitting s.stop ss
      else
        fitting reached ss

end Segment

namespace Builder

/- Which segments are accepted can be told from their ends. -/
theorem accepted_eq_fitting
    (b : Builder)
    (offered : List Segment) :
    b.accepted offered =
      Segment.fitting b.reached offered := by
  induction offered generalizing b with
  | nil => rfl
  | cons s ss ih =>
      rw [accepted, Segment.fitting]
      cases hOffer : (offer s).run b with
      | ok _ next =>
          have hAdd := add_of_offer hOffer
          rcases add_cases hAdd with ⟨hStart, hOrder, _⟩
          rw [if_pos ⟨hStart, hOrder⟩, ← reached_add hAdd]
          exact congrArg (s :: ·) (ih next)
      | error e next =>
          have hBad :=
            (offer_fails_iff b s).mp ⟨e, next, hOffer⟩
          rw [if_neg (by omega), eq_of_offer_error hOffer]
          exact ih b

end Builder

end ProseCheck

------------------------------------------------------------
-- Normal Builders
------------------------------------------------------------

namespace ProseCheck

namespace Segment

/- A segment that covers nothing and has no content. -/
def IsVacant
    (s : Segment) : Prop :=
  s.span = 0 ∧ s.content = []

/-
  Two neighbours that do not read as one: they are not both
  markup, and not both text that stands for itself.
-/
def Apart
    (s t : Segment) : Prop :=
  ¬ (s.kind = .markup ∧ t.kind = .markup) ∧
    ¬ (s.kind = .text ∧ s.isIdentity = true ∧
      t.kind = .text ∧ t.isIdentity = true)

/- Neighbours are merged exactly where they read as one. -/
theorem apart_iff_not_mergeable
    (s t : Segment) :
    s.Apart t ↔ ¬ Builder.mergeable s t = true := by
  unfold Apart Builder.mergeable
  cases s.kind <;> cases t.kind <;> simp

end Segment

namespace Builder

/-
  What holds of the segments of a builder at any time.  They
  follow each other from zero up to what is reached.
-/
structure Normal
    (b : Builder) : Prop where
  chain : Segment.Chain 0 b.reached b.segments
  filled : ∀ s ∈ b.segments, ¬ s.IsVacant
  apart : b.segments.IsChain Segment.Apart

/- A builder that has accepted nothing is normal. -/
theorem normal_empty : empty.Normal where
  chain := rfl
  filled := by simp [empty, segments]
  apart := List.isChain_nil

variable {previous s t : Segment}

/-
  What is apart from a segment is apart from the one that
  takes its place in a merge.
-/
theorem apart_merge
    (hApart : t.Apart previous)
    (hMerge : mergeable previous s = true) :
    t.Apart (merge previous s) := by
  rw [Segment.apart_iff_not_mergeable] at hApart ⊢
  intro hAgain
  apply hApart
  unfold mergeable at *
  simp only [Bool.and_eq_true, Bool.or_eq_true, beq_iff_eq,
    merge] at *
  rcases hMerge with ⟨hKind, hMarkup | ⟨hWhole, _⟩⟩
  · exact ⟨hAgain.1.trans hKind.symm,
      Or.inl (hKind.trans hMarkup)⟩
  · refine ⟨hAgain.1.trans hKind.symm, ?_⟩
    rcases hAgain.2 with hMarkup | ⟨hFirst, _⟩
    · exact Or.inl (hKind.trans hMarkup)
    · exact Or.inr ⟨hFirst, hWhole⟩

/- A merge of two segments that follow each other is filled. -/
theorem not_isVacant_merge
    (hFilled : ¬ previous.IsVacant)
    (hPrevious : previous.start ≤ previous.stop)
    (hJoin : s.start = previous.stop)
    (hOrder : s.start ≤ s.stop) :
    ¬ (merge previous s).IsVacant := by
  rintro ⟨hSpan, hContent⟩
  have hBoth := List.append_eq_nil_iff.mp hContent
  unfold Segment.span merge at hSpan
  dsimp only at hSpan
  refine hFilled ⟨?_, hBoth.1⟩
  unfold Segment.span
  omega

variable {older : List Segment}

/- Putting a segment behind filled ones leaves all filled. -/
theorem filled_push
    {start : Int}
    (hChain : Segment.Chain start s.start older.reverse)
    (hOrder : s.start ≤ s.stop)
    (hOlder : ∀ t ∈ older, ¬ t.IsVacant)
    (hFilled : ¬ s.IsVacant) :
    ∀ t ∈ push s older, ¬ t.IsVacant := by
  cases older with
  | nil =>
      intro t hMem
      rw [List.mem_singleton.mp hMem]
      exact hFilled
  | cons previous older =>
      rw [List.reverse_cons, Segment.chain_append_iff]
        at hChain
      rcases hChain with ⟨_, _, _, hPrevious, hJoin⟩
      rcases List.forall_mem_cons.mp hOlder with
        ⟨hThis, hOthers⟩
      rw [push]
      split
      · exact List.forall_mem_cons.mpr
          ⟨not_isVacant_merge hThis hPrevious hJoin.symm
            hOrder, hOthers⟩
      · exact List.forall_mem_cons.mpr ⟨hFilled, hOlder⟩

/-
  Putting a segment behind others leaves all neighbours apart,
  the last one being looked at first.
-/
theorem apart_push
    (hApart : older.IsChain (fun t u => u.Apart t)) :
    (push s older).IsChain (fun t u => u.Apart t) := by
  cases older with
  | nil => exact List.isChain_singleton s
  | cons previous older =>
      rw [push]
      by_cases hMerge : mergeable previous s = true
      · rw [if_pos hMerge]
        cases older with
        | nil => exact List.isChain_singleton _
        | cons t older =>
            rcases List.isChain_cons_cons.mp hApart with
              ⟨hHere, hRest⟩
            exact List.isChain_cons_cons.mpr
              ⟨apart_merge hHere hMerge, hRest⟩
      · rw [if_neg hMerge]
        exact List.isChain_cons_cons.mpr
          ⟨(Segment.apart_iff_not_mergeable _ _).mpr hMerge,
            hApart⟩

variable {b next : Builder}

/- A vacant segment leaves no trace if it is accepted. -/
theorem add_of_isVacant
    (hAdd : b.add s = .ok next)
    (hVacant : s.IsVacant) :
    next = b := by
  rcases add_cases hAdd with ⟨hStart, hOrder, _⟩
  unfold Segment.IsVacant at hVacant
  rw [add_eq, if_neg (not_not_intro hStart),
    if_neg (Int.not_lt.mpr hOrder), if_pos hVacant] at hAdd
  exact (Except.ok.inj hAdd).symm

/- A builder stays normal with a segment that it accepts. -/
theorem Normal.of_add
    (hNormal : b.Normal)
    (hAdd : b.add s = .ok next) :
    next.Normal := by
  by_cases hVacant : s.IsVacant
  · rw [add_of_isVacant hAdd hVacant]
    exact hNormal
  rcases add_cases hAdd with
    ⟨hStart, hOrder, ⟨hSpan, hContent, _⟩ | rfl⟩
  · exact absurd ⟨hSpan, hContent⟩ hVacant
  have hChain : Segment.Chain 0 s.start b.segments := by
    rw [hStart]
    exact hNormal.chain
  have hOlder : ∀ t ∈ b.recent, ¬ t.IsVacant := by
    intro t hMem
    exact hNormal.filled t (List.mem_reverse.mpr hMem)
  refine ⟨?_, ?_, ?_⟩
  · rw [reached_push]
    exact chain_push hChain hOrder rfl
  · intro t hMem
    exact filled_push hChain hOrder hOlder hVacant t
      (List.mem_reverse.mp hMem)
  · exact List.isChain_reverse.mpr
      (apart_push (List.isChain_reverse.mp hNormal.apart))

/- A builder stays normal through a run of offers. -/
theorem Normal.offerAll
    (hNormal : b.Normal)
    (offered : List Segment) :
    (b.offerAll offered).Normal := by
  induction offered generalizing b with
  | nil => exact hNormal
  | cons s ss ih =>
      rw [Builder.offerAll]
      cases hOffer : (offer s).run b with
      | ok _ next =>
          exact ih (hNormal.of_add (add_of_offer hOffer))
      | error e next =>
          rw [eq_of_offer_error hOffer]
          exact ih hNormal

end Builder

end ProseCheck

------------------------------------------------------------
-- Any Offers
------------------------------------------------------------

namespace ProseCheck

namespace Builder

/- A text is finished exactly at the length that is reached. -/
theorem build_eq_ok_iff
    (b : Builder)
    (length : Int)
    (a : AnnotatedText) :
    b.build length = .ok a ↔
      length = b.reached ∧ a = ⟨b.segments, length⟩ := by
  rw [build]
  by_cases hReached : b.reached = length
  · rw [if_neg (not_not_intro hReached)]
    simp [hReached, eq_comm]
  · rw [if_pos hReached]
    simp [Ne.symm hReached]

/-
  A builder that was offered any segments fails at the next
  one exactly if it leaves a gap or goes backward, and then
  the builder that is left is as it was.  It holds the
  segments that went on from each other, as if no other ones
  had been offered: from zero on without a gap, none of them
  vacant, no neighbours that could be merged, with all their
  text and all their markup.  It is finished exactly at the
  length that it has reached.
-/
theorem offerAll_normal
    (offered : List Segment) :
    let b := empty.offerAll offered
    let accepted := empty.accepted offered
    (∀ s,
      ((∃ e next, (offer s).run b = .error e next) ↔
        s.start ≠ b.reached ∨ s.stop < s.start) ∧
      ∀ e next, (offer s).run b = .error e next →
        next = b) ∧
    accepted = Segment.fitting 0 offered ∧
    empty.addAll accepted = .ok b ∧
    b.Normal ∧
    (∀ kind, b.contents kind =
      accepted.flatMap (Segment.contentAs kind)) ∧
    ∀ length a, b.build length = .ok a ↔
      length = b.reached ∧ a = ⟨b.segments, length⟩ := by
  intro b accepted
  have hAll := empty.addAll_accepted offered
  refine ⟨?_, empty.accepted_eq_fitting offered, hAll,
    normal_empty.offerAll offered, ?_, b.build_eq_ok_iff⟩
  · intro s
    exact ⟨b.offer_fails_iff s,
      fun e next => eq_of_offer_error⟩
  · intro kind
    exact contents_addAll kind hAll

end Builder

end ProseCheck

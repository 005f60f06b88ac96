import Mathlib.Tactic.Common
import ProseCheck.Annotated.Builder

/-
  This file says what it is for segments to cover a source:
  they follow each other without a gap, from the start of
  the source to its end.  A builder only ever holds segments
  that follow each other, and accepts all that go on from
  there.

  Main declarations:
    * `Segment.Chain`
    * `AnnotatedText.Covers`
    * `Builder.Sound`
    * `Builder.addAll_of_chain`
-/

------------------------------------------------------------
-- Chains of Segments
------------------------------------------------------------

namespace ProseCheck

namespace Segment

/-
  Segments that follow each other without a gap, from one
  offset to another.
-/
def Chain
    (start stop : Int) : List Segment → Prop
  | [] => start = stop
  | s :: ss =>
      s.start = start ∧ s.start ≤ s.stop ∧
        Chain s.stop stop ss

/- A chain goes forward. -/
theorem Chain.le
    {start stop : Int}
    {ss : List Segment}
    (hChain : Chain start stop ss) :
    start ≤ stop := by
  induction ss generalizing start with
  | nil => exact Int.le_of_eq hChain
  | cons s ss ih =>
      rcases hChain with ⟨hStart, hOrder, hRest⟩
      have hLater := ih hRest
      omega

/- A chain may be cut between any two of its segments. -/
theorem chain_append_iff
    (start stop : Int)
    (ss ts : List Segment) :
    Chain start stop (ss ++ ts) ↔
      ∃ middle, Chain start middle ss ∧
        Chain middle stop ts := by
  induction ss generalizing start with
  | nil =>
      constructor
      · intro hChain
        exact ⟨start, rfl, hChain⟩
      · rintro ⟨middle, hHere, hRest⟩
        cases hHere
        exact hRest
  | cons s ss ih =>
      simp only [List.cons_append, Chain, ih]
      constructor
      · rintro ⟨hStart, hOrder, middle, hFirst, hRest⟩
        exact ⟨middle, ⟨hStart, hOrder, hFirst⟩, hRest⟩
      · rintro ⟨middle, ⟨hStart, hOrder, hFirst⟩, hRest⟩
        exact ⟨hStart, hOrder, middle, hFirst, hRest⟩

/- A single segment is a chain between its ends. -/
theorem chain_singleton_iff
    (start stop : Int)
    (s : Segment) :
    Chain start stop [s] ↔
      s.start = start ∧ s.start ≤ s.stop ∧
        s.stop = stop :=
  Iff.rfl

/- A segment of a chain lies between the ends of the chain. -/
theorem Chain.bounds_of_mem
    {start stop : Int}
    {ss : List Segment}
    (hChain : Chain start stop ss)
    {s : Segment}
    (hMem : s ∈ ss) :
    start ≤ s.start ∧ s.start ≤ s.stop ∧ s.stop ≤ stop := by
  induction ss generalizing start with
  | nil => simp at hMem
  | cons t ss ih =>
      rcases hChain with ⟨hStart, hOrder, hRest⟩
      rcases List.mem_cons.mp hMem with hSame | hLater
      · have hBeyond := hRest.le
        subst hSame
        omega
      · have hBounds := ih hRest hLater
        omega

end Segment

namespace AnnotatedText

/- The segments cover a source of a given length. -/
def Covers
    (a : AnnotatedText)
    (length : Nat) : Prop :=
  a.sourceLength = length ∧
    Segment.Chain 0 length a.segments

/- The text that is its own plain text is covered by it. -/
theorem covers_identity
    (t : Text) :
    (identity t).Covers t.length := by
  cases t with
  | nil => exact ⟨rfl, rfl⟩
  | cons c cs =>
      refine ⟨rfl, rfl, ?_, rfl⟩
      exact Int.natCast_nonneg _

end AnnotatedText

end ProseCheck

------------------------------------------------------------
-- Chains in a Builder
------------------------------------------------------------

namespace ProseCheck

namespace Builder

/- The segments of a builder follow each other from zero. -/
def Sound
    (b : Builder) : Prop :=
  Segment.Chain 0 b.reached b.segments

/- A builder that has accepted nothing is sound. -/
theorem sound_empty : empty.Sound := rfl

/- A builder has not reached less than nothing. -/
theorem Sound.reached_nonneg
    {b : Builder}
    (hSound : b.Sound) :
    0 ≤ b.reached :=
  hSound.le

/- What a merge puts in the place of two neighbours. -/
theorem chain_push
    {start stop : Int}
    {older : List Segment}
    {s : Segment}
    (hChain : Segment.Chain start s.start older.reverse)
    (hOrder : s.start ≤ s.stop)
    (hStop : s.stop = stop) :
    Segment.Chain start stop (push s older).reverse := by
  cases older with
  | nil =>
      rw [push, List.reverse_singleton,
        Segment.chain_singleton_iff]
      have hStart : start = s.start := hChain
      exact ⟨hStart.symm, hOrder, hStop⟩
  | cons previous older =>
      rw [push]
      split
      -- the merged segment takes up the span of both
      · rw [List.reverse_cons, Segment.chain_append_iff]
          at hChain ⊢
        rcases hChain with ⟨middle, hFirst, hPrevious⟩
        rw [Segment.chain_singleton_iff] at hPrevious
        refine ⟨middle, hFirst, hPrevious.1, ?_, hStop⟩
        simp only [merge]
        omega
      · rw [List.reverse_cons, Segment.chain_append_iff]
        exact ⟨s.start, hChain, rfl, hOrder, hStop⟩

/- After a segment is put behind the others, it is reached. -/
theorem reached_push
    (s : Segment)
    (older : List Segment) :
    (Builder.mk (push s older)).reached = s.stop := by
  cases older with
  | nil => rfl
  | cons previous older =>
      rw [push]
      split <;> rfl

/-
  A segment that goes on from where the builder has come is
  accepted, and then its end is reached.
-/
theorem add_of_start
    {b : Builder}
    (hSound : b.Sound)
    {s : Segment}
    (hStart : s.start = b.reached)
    (hOrder : s.start ≤ s.stop) :
    ∃ next, b.add s = .ok next ∧ next.Sound ∧
      next.reached = s.stop := by
  rw [add_eq, if_neg (not_not_intro hStart),
    if_neg (Int.not_lt.mpr hOrder)]
  split
  · rename_i hEmpty
    refine ⟨b, rfl, hSound, ?_⟩
    have hSpan := hEmpty.1
    unfold Segment.span at hSpan
    omega
  · refine ⟨_, rfl, ?_, reached_push s b.recent⟩
    rw [Sound, reached_push]
    refine chain_push ?_ hOrder rfl
    rw [hStart]
    exact hSound

/-
  A chain that goes on from where the builder has come is
  accepted as a whole, and then its end is reached.
-/
theorem addAll_of_chain
    {b : Builder}
    (hSound : b.Sound)
    {stop : Int}
    {ss : List Segment}
    (hChain : Segment.Chain b.reached stop ss) :
    ∃ next, b.addAll ss = .ok next ∧ next.Sound ∧
      next.reached = stop := by
  induction ss generalizing b with
  | nil => exact ⟨b, rfl, hSound, hChain⟩
  | cons s ss ih =>
      rcases hChain with ⟨hStart, hOrder, hRest⟩
      rcases add_of_start hSound hStart hOrder with
        ⟨middle, hAdd, hMiddle, hReached⟩
      rw [← hReached] at hRest
      rcases ih hMiddle hRest with
        ⟨next, hAll, hNext, hStop⟩
      refine ⟨next, ?_, hNext, hStop⟩
      rw [addAll, hAdd]
      exact hAll

/- A builder that has come to the end gives a covering text. -/
theorem build_of_reached
    {b : Builder}
    (hSound : b.Sound)
    {length : Nat}
    (hReached : b.reached = length) :
    ∃ a, b.build length = .ok a ∧ a.Covers length := by
  rw [build, if_neg (not_not_intro hReached)]
  refine ⟨_, rfl, rfl, ?_⟩
  rw [← hReached]
  exact hSound

end Builder

end ProseCheck

import ProseCheck.Proofs.Annotated.Order
import ProseCheck.Proofs.Annotated.Parts

/-
  This file goes from an annotated text back to the segments
  that its builder accepted.  A segment of the text is one of
  them, or several that were merged.  So each character of
  the text was brought by an accepted segment, which takes it
  to the same source offset, merged or not.

  Main declarations:
    * `Builder.Merged`
    * `Builder.merged_of_addAll`
    * `Segment.Carries`
    * `Builder.Merged.carries`
    * `AnnotatedText.exists_carries`
-/

------------------------------------------------------------
-- Built Segments
------------------------------------------------------------

namespace ProseCheck

namespace Builder

/-
  A segment is a given one, or a given one has been merged to
  the end of such a segment.
-/
inductive Merged
    (given : Segment → Prop) : Segment → Prop where
  | alone
      {s : Segment}
      (hGiven : given s) : Merged given s
  | join
      {previous next : Segment}
      (hPrevious : Merged given previous)
      (hNext : given next)
      (hMerge : mergeable previous next = true)
      (hJoin : next.start = previous.stop) :
      Merged given (merge previous next)

variable {given : Segment → Prop}

/- A given segment is put behind segments, or merged to one. -/
theorem merged_push
    {older : List Segment}
    (hOlder : ∀ t ∈ older, Merged given t)
    {s : Segment}
    (hGiven : given s)
    (hJoin : s.start = (Builder.mk older).reached) :
    ∀ t ∈ push s older, Merged given t := by
  cases older with
  | nil =>
      intro t hMem
      rw [List.mem_singleton.mp hMem]
      exact .alone hGiven
  | cons previous older =>
      rw [push]
      split
      · rename_i hMerge
        intro t hMem
        rcases List.mem_cons.mp hMem with rfl | hRest
        · exact .join (hOlder previous List.mem_cons_self)
            hGiven hMerge hJoin
        · exact hOlder t (List.mem_cons_of_mem _ hRest)
      · intro t hMem
        rcases List.mem_cons.mp hMem with rfl | hRest
        · exact .alone hGiven
        · exact hOlder t hRest

/- All that is built is merged from what was accepted. -/
theorem merged_of_addAll
    {b next : Builder}
    (hBefore : ∀ s ∈ b.recent, Merged given s)
    {ss : List Segment}
    (hAccepted : ∀ s ∈ ss, given s)
    (hAdd : b.addAll ss = .ok next) :
    ∀ s ∈ next.recent, Merged given s := by
  induction ss generalizing b with
  | nil =>
      cases hAdd
      exact hBefore
  | cons s ss ih =>
      rcases (addAll_cons_eq_ok_iff s ss).mp hAdd with
        ⟨middle, hFirst, hRest⟩
      refine ih ?_
        (fun t hMem => hAccepted t (List.mem_cons_of_mem s hMem))
        hRest
      rcases add_cases hFirst with
        ⟨hStart, _, ⟨_, _, rfl⟩ | rfl⟩
      · exact hBefore
      · exact merged_push hBefore
          (hAccepted s List.mem_cons_self) hStart

/-
  What holds of markup, of all that stands for itself and of
  the given segments holds of the merged ones.
-/
theorem Merged.of_given
    {p : Segment → Prop}
    (hPlain :
      ∀ s : Segment,
        s.kind = .markup ∨ s.isIdentity = true → p s)
    (hGiven : ∀ s, given s → p s)
    {s : Segment}
    (hMerged : Merged given s) :
    p s := by
  cases hMerged with
  | alone hHere => exact hGiven s hHere
  | @join previous next _ _ hMerge hJoin =>
      apply hPlain
      cases hKind : next.kind with
      | markup => exact Or.inl hKind
      | text =>
          rcases (mergeable_iff_of_text hKind).mp hMerge with
            ⟨_, hFirst, hSecond⟩
          exact Or.inr
            (isIdentity_merge hFirst hSecond hJoin)

end Builder

end ProseCheck

------------------------------------------------------------
-- Characters of Built Segments
------------------------------------------------------------

namespace ProseCheck

/-
  The segment is text, and has a character that it takes to a
  source offset.
-/
def Segment.Carries
    (s : Segment)
    (c : Char)
    (place : Int) : Prop :=
  s.kind = .text ∧
    ∃ i : Nat, s.content[i]? = some c ∧
      s.originalStart i = place

variable
  {c : Char}
  {place : Int}

/- What a segment carries goes to a place of its own. -/
theorem Segment.Carries.spans
    {s : Segment}
    (hCarries : s.Carries c place)
    (hSpan : s.start < s.stop) :
    s.Spans place := by
  rcases hCarries with ⟨_, i, hHere, rfl⟩
  have hInside := (List.getElem?_eq_some_iff.mp hHere).1
  exact spans_originalStart hSpan (Int.natCast_nonneg i)
    (Int.ofNat_lt.mpr hInside)

namespace Builder

/- A merged segment carries what the two neighbours carry. -/
theorem carries_merge
    {previous next : Segment}
    (hMerge : mergeable previous next = true)
    (hJoin : next.start = previous.stop)
    (hCarries : (merge previous next).Carries c place) :
    previous.Carries c place ∨ next.Carries c place := by
  rcases hCarries with ⟨hText, i, hHere, hPlace⟩
  have hKind : next.kind = .text := hText
  rcases (mergeable_iff_of_text hKind).mp hMerge with
    ⟨hSame, hFirst, hSecond⟩
  have hStop := Segment.stop_of_isIdentity hFirst
  rw [Segment.originalStart,
    if_pos (isIdentity_merge hFirst hSecond hJoin)] at hPlace
  change previous.start + i = place at hPlace
  change (previous.content ++ next.content)[i]? = some c
    at hHere
  rcases Nat.lt_or_ge i previous.content.length with
    hLess | hBehind
  · rw [List.getElem?_append_left hLess] at hHere
    refine Or.inl ⟨hSame, i, hHere, ?_⟩
    rw [Segment.originalStart, if_pos hFirst, hPlace]
  · rw [List.getElem?_append_right hBehind] at hHere
    refine Or.inr ⟨hKind, _, hHere, ?_⟩
    rw [Segment.originalStart, if_pos hSecond]
    omega

/- Each character that is merged was carried by a given one. -/
theorem Merged.carries
    {given : Segment → Prop}
    {s : Segment}
    (hMerged : Merged given s)
    (hCarries : s.Carries c place) :
    ∃ t, given t ∧ t.Carries c place := by
  induction hMerged with
  | alone hGiven => exact ⟨_, hGiven, hCarries⟩
  | join _ hNext hMerge hJoin ih =>
      rcases carries_merge hMerge hJoin hCarries with
        hFirst | hSecond
      · exact ih hFirst
      · exact ⟨_, hNext, hSecond⟩

end Builder

end ProseCheck

------------------------------------------------------------
-- Characters of a Text
------------------------------------------------------------

namespace ProseCheck

namespace AnnotatedText

/-
  Each plain character is carried by a segment of the text to
  the place that its offset is taken to.
-/
theorem exists_carries
    (a : AnnotatedText)
    {offset : Nat}
    (hOffset : offset < a.plainText.length) :
    ∃ s ∈ a.segments, ∃ c place,
      a.plainText[offset]? = some c ∧
        a.originalOffset offset = .ok place ∧
        s.Carries c place := by
  rcases a.exists_yields hOffset with ⟨start, s, hYields⟩
  have hOk := hYields.originalOffset_eq
  have hKind := hYields.kind_eq
  have hInside := hYields.bounds
  have hText : s.contribution = s.content := by
    rw [Segment.contribution, hKind]
  have hIndex : offset - start < s.content.length := by
    omega
  obtain ⟨c, hChar⟩ : ∃ c, s.content[offset - start]? = some c :=
    ⟨_, List.getElem?_eq_getElem hIndex⟩
  rcases hYields with
    ⟨before, after, hCut, hStart, hFrom, _⟩
  have hHere : a.plainText[offset]? = some c := by
    have hBefore :
        (before.flatMap Segment.contribution).length =
          start := hStart.symm
    rw [plainText, hCut, List.flatMap_append,
      List.flatMap_cons, hText,
      List.getElem?_append_right (by omega), hBefore,
      List.getElem?_append_left hIndex]
    exact hChar
  refine ⟨s, by simp [hCut], c, _, hHere, hOk, hKind,
    offset - start, hChar, ?_⟩
  rw [Int.ofNat_sub hFrom]

end AnnotatedText

end ProseCheck

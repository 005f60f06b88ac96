import ProseCheck.Proofs.Annotated.RoundTrip
import ProseCheck.Proofs.Tree.Handed
import ProseCheck.Proofs.Tree.Origin

/-
  This file says when plain offsets come back from the source
  of located tokens.  Let each special token that is located
  have some content, and no more than it covers.  Then plain
  offsets are taken to the source in their order.  All of
  them come back exactly where each special text of the tree
  has one character, or as many as it covers.

  Main declarations:
    * `SpecialsFit`
    * `SpecialsFit.fits`
    * `SpecialsFit.sharp_iff`
    * `annotate_locate_roundTrip`
    * `annotate_locate_no_roundTrip`
-/

------------------------------------------------------------
-- Special Tokens
------------------------------------------------------------

namespace ProseCheck

/-
  Each special token that is located has some content, and no
  more characters than it covers.
-/
def SpecialsFit
    (source : Text)
    (tokens : List Token) : Prop :=
  ∀ (t : Token) (n : Node), t.IsSpecial →
    t.LocatedAt source tokens n →
      t.content ≠ [] ∧
        (t.content.length : Int) ≤ n.stop - n.start

/-
  Each special token that is located as a text of the tree
  has one character, or one for each that it covers.
-/
def SpecialsSharp
    (source : Text)
    (tokens : List Token) : Prop :=
  ∀ (t : Token) (n : Node), t.IsSpecial →
    t.LocatedAt source tokens n →
      n.TextOf (locate source tokens) →
        t.content.length = 1 ∨
          (t.content.length : Int) = n.stop - n.start

variable
  {source : Text}
  {tokens : List Token}
  {a : AnnotatedText}

/- It is enough to look at each leaf and the node it adds. -/
theorem specialsFit_of_leaves
    (hLeaves :
      ∀ u ∈ Locator.leavesAll source tokens
          (Locator.start source),
        ∀ n ∈ (Locator.step source u.1 u.2).top.recent.head?,
          u.1.IsSpecial →
            u.1.content ≠ [] ∧
              (u.1.content.length : Int) ≤ n.stop - n.start) :
    SpecialsFit source tokens := by
  intro t n hSpecial hLocated
  exact forall_locatedAt
    (p := fun u m => u.IsSpecial →
      u.content ≠ [] ∧
        (u.content.length : Int) ≤ m.stop - m.start)
    hLeaves t n hLocated hSpecial

/-
  A text of a located tree stands for itself, or a special
  token is located there.
-/
theorem identity_or_special
    {n : Node}
    (hText : n.TextOf (locate source tokens)) :
    n.segment.isIdentity = true ∨
      ∃ t : Token, t.IsSpecial ∧
        t.LocatedAt source tokens n ∧
          n.content = t.content := by
  rcases exists_locatedAt hText with ⟨t, hLocated⟩
  have hMakes := hLocated.makes hText.kind_eq
  have hContent := hMakes.content_eq
  rcases hMakes with
    ⟨_, hWritten⟩ | ⟨hEscape, _⟩ | ⟨hEntity, _⟩
  · exact Or.inl (hWritten.isIdentity rfl (Nat.zero_le _))
  · exact Or.inr ⟨t, hEscape.1, hLocated, hContent⟩
  · exact Or.inr ⟨t, hEntity.1, hLocated, hContent⟩

/-
  Where the special tokens have no more characters than they
  cover, no segment has.
-/
theorem SpecialsFit.fits
    (hFit : SpecialsFit source tokens)
    (hOk : annotate source (locate source tokens) = .ok a) :
    a.Fits := by
  have hSelf :
      ∀ s : Segment, s.isIdentity = true →
        (s.content.length : Int) ≤ s.span :=
    fun s hIdentity =>
      Int.le_of_eq (s.isIdentity_iff.mp hIdentity)
  refine annotate_forall hOk hSelf
    (fun s => Segment.IsBreak.fits) ?_
  intro n hText
  rcases identity_or_special hText with
    hIdentity | ⟨t, hSpecial, hLocated, hContent⟩
  · exact hSelf n.segment hIdentity
  · change (n.content.length : Int) ≤ n.stop - n.start
    rw [hContent]
    exact (hFit t n hSpecial hLocated).2

/-
  Several characters share their source in a segment exactly
  where they do in a special text of the tree.
-/
theorem SpecialsFit.sharp_iff
    (hFit : SpecialsFit source tokens)
    (hOk : annotate source (locate source tokens) = .ok a) :
    a.Sharp ↔ SpecialsSharp source tokens := by
  constructor
  -- a text with a span of its own is part of a segment
  · intro hSharp t n hSpecial hLocated hText
    rcases hFit t n hSpecial hLocated with ⟨hSome, hRoom⟩
    have hPositive := List.length_pos_iff.mpr hSome
    have hContent : n.segment.content = t.content :=
      (hLocated.makes hText.kind_eq).content_eq
    rw [← hContent] at hPositive hRoom ⊢
    rcases (annotate_keeps_texts hOk).2 n hText (by omega)
      with ⟨s, hMem, rfl | ⟨_, hIdentity, _⟩⟩
    · rcases hSharp n.segment hMem rfl with
        hIdentity | hFew
      · exact Or.inr (n.segment.isIdentity_iff.mp hIdentity)
      · exact Or.inl (by omega)
    · exact Or.inr (n.segment.isIdentity_iff.mp hIdentity)
  · intro hSharp
    refine annotate_forall hOk (fun s => Or.inl)
      (fun s => Segment.IsBreak.identity_or_single) ?_
    intro n hText
    rcases identity_or_special hText with
      hIdentity | ⟨t, hSpecial, hLocated, hContent⟩
    · exact Or.inl hIdentity
    have hFew := hSharp t n hSpecial hLocated hText
    rw [← hContent] at hFew
    rcases hFew with hOne | hAll
    · exact Or.inr (Nat.le_of_eq hOne)
    · exact Or.inl (n.segment.isIdentity_iff.mpr hAll)

end ProseCheck

------------------------------------------------------------
-- Round Trips
------------------------------------------------------------

namespace ProseCheck

/-
  Let each special token that is located have some content,
  and no more than it covers.  Then the plain offsets of the
  text that is read from located tokens are taken to the
  source in their order, and all of them come back exactly
  where no two characters of a special text share their
  source.
-/
theorem annotate_locate_roundTrip
    {source : Text}
    {tokens : List Token}
    {a : AnnotatedText}
    (hOk : annotate source (locate source tokens) = .ok a)
    (hFit : SpecialsFit source tokens) :
    (∀ p q : Nat, p ≤ q → q ≤ a.plainText.length →
      ∃ x y : Nat,
        a.originalOffset p = .ok (x : Int) ∧
          a.originalOffset q = .ok (y : Int) ∧ x ≤ y) ∧
      ((∀ p ≤ a.plainText.length, a.ComesBack p) ↔
        SpecialsSharp source tokens) := by
  have hCovers := (annotate_keeps_texts hOk).1
  have hFits := hFit.fits hOk
  constructor
  · intro p q hOrder hLength
    rcases AnnotatedText.originalOffset_mono hCovers hFits
      false hOrder hLength with ⟨x, y, hFirst, hSecond, hLe, _⟩
    exact ⟨x, y, hFirst, hSecond, hLe⟩
  · rw [AnnotatedText.comesBack_iff_sharp hCovers hFits]
    exact hFit.sharp_iff hOk

/-
  An entity, a break of two characters and an escaped star.
  Each is one plain character, so all offsets come back.
-/
theorem annotate_locate_roundTrip_entity :
    let source : Text :=
      ['&', 'l', 't', ';', '\r', '\n', '\\', '*']
    let tokens : List Token :=
      [{ name := "paragraph_open", nesting := 1,
          lines := some (0, 2) },
        { name := "inline",
          children :=
            [{ name := "text_special", content := ['<'],
                markup := ['&', 'l', 't', ';'],
                info := "entity" },
              { name := "softbreak" },
              { name := "text_special", content := ['*'],
                markup := ['\\', '*'], info := "escape" }] },
        { name := "paragraph_close", nesting := -1 }]
    let a : AnnotatedText :=
      ⟨[⟨.text, 0, 4, ['<']⟩, ⟨.text, 4, 6, [' ']⟩,
        ⟨.markup, 6, 7, ['\\']⟩, ⟨.text, 7, 8, ['*']⟩], 8⟩
    annotate source (locate source tokens) = .ok a ∧
      SpecialsFit source tokens ∧
      (∀ p q : Nat, p ≤ q → q ≤ a.plainText.length →
        ∃ x y : Nat,
          a.originalOffset p = .ok (x : Int) ∧
            a.originalOffset q = .ok (y : Int) ∧ x ≤ y) ∧
      SpecialsSharp source tokens ∧
      ∀ p ≤ a.plainText.length, a.ComesBack p := by
  intro source tokens a
  have hOk : annotate source (locate source tokens) = .ok a := by
    decide +kernel
  have hFit : SpecialsFit source tokens :=
    specialsFit_of_leaves (by decide +kernel)
  have hSharp : SpecialsSharp source tokens := by
    intro t n hSpecial hLocated _
    refine forall_locatedAt
      (p := fun u m => u.IsSpecial →
        u.content.length = 1 ∨
          (u.content.length : Int) = m.stop - m.start)
      ?_ t n hLocated hSpecial
    decide +kernel
  have hTrip := annotate_locate_roundTrip hOk hFit
  exact ⟨hOk, hFit, hTrip.1, hSharp, hTrip.2.mpr hSharp⟩

/-
  An entity that is read as two characters, which share the
  seven characters of its name.  The second one begins at the
  second character of the name, but from there the first one
  is come back to.
-/
theorem annotate_locate_no_roundTrip :
    let source : Text := ['&', 'f', 'j', 'l', 'i', 'g', ';']
    let tokens : List Token :=
      [{ name := "paragraph_open", nesting := 1,
          lines := some (0, 1) },
        { name := "inline",
          children :=
            [{ name := "text_special", content := ['f', 'j'],
                markup := source, info := "entity" }] },
        { name := "paragraph_close", nesting := -1 }]
    let a : AnnotatedText :=
      ⟨[⟨.text, 0, 7, ['f', 'j']⟩], 7⟩
    annotate source (locate source tokens) = .ok a ∧
      SpecialsFit source tokens ∧ 1 ≤ a.plainText.length ∧
      a.originalOffset 1 = .ok 1 ∧ a.plainOffset 1 = .ok 0 := by
  intro source tokens a
  have hOk : annotate source (locate source tokens) = .ok a := by
    decide +kernel
  have hFit : SpecialsFit source tokens :=
    specialsFit_of_leaves (by decide +kernel)
  exact ⟨hOk, hFit, by decide, by decide, by decide⟩

end ProseCheck

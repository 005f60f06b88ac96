import ProseCheck.Proofs.Annotated.Carried
import ProseCheck.Proofs.Tree.Texts

/-
  This file says that a walk hands nothing else to its
  builder than the texts of the tree and the line breaks
  between them, whatever the tree is.  So what is built can
  be traced to a text of the tree, or to a line break that
  is read as it stands in the source or as a space.

  Main declarations:
    * `Segment.IsBreak`
    * `Walk.HandsOnly`
    * `Walk.Sound.visit_handsOnly`
    * `annotate_merged`
    * `annotate_forall`
    * `annotate_carries`
-/

------------------------------------------------------------
-- Line Breaks
------------------------------------------------------------

namespace ProseCheck

namespace Segment

/-
  A text segment of a line break in the source.  It covers
  the characters of the break, and reads what is read for
  them.
-/
def IsBreak
    (source : Text)
    (s : Segment) : Prop :=
  ∃ (place : Nat) (run : Text) (inProse : Bool),
    run ≠ [] ∧ (∀ c ∈ run, isBreakChar c = true) ∧
      source.StandsAt run place ∧
      s = ⟨.text, place, (place + run.length : Nat),
        breakContent inProse run⟩

variable
  {source : Text}
  {s : Segment}

/- A line break has no more characters than it covers. -/
theorem IsBreak.fits
    (hBreak : s.IsBreak source) :
    (s.content.length : Int) ≤ s.span := by
  rcases hBreak with ⟨place, run, inProse, hRun, _, _, rfl⟩
  have hPositive := List.length_pos_iff.mpr hRun
  simp only [span, breakContent]
  split
  · simp only [List.length_singleton]
    omega
  · omega

/- The characters of a break stand for themselves. -/
theorem isIdentity_of_break
    (place : Nat)
    (run : Text) :
    isIdentity ⟨.text, place, (place + run.length : Nat),
      breakContent false run⟩ = true := by
  rw [isIdentity_iff]
  simp only [breakContent, Bool.false_eq_true, if_false]
  omega

/- A line break stands for itself, or is read as a space. -/
theorem IsBreak.identity_or_single
    (hBreak : s.IsBreak source) :
    s.isIdentity = true ∨ s.content.length ≤ 1 := by
  rcases hBreak with ⟨place, run, inProse, _, _, _, rfl⟩
  cases inProse with
  | true => exact Or.inr (Nat.le_refl 1)
  | false => exact Or.inl (isIdentity_of_break place run)

/-
  A character of a line break is the one in the source, or a
  space in the place of a carriage return or a line feed.
-/
theorem IsBreak.carries
    (hBreak : s.IsBreak source)
    {c : Char}
    {place : Nat}
    (hCarries : s.Carries c place) :
    source[place]? = some c ∨
      (c = ' ' ∧ ∃ d, source[place]? = some d ∧
        isBreakChar d = true) := by
  rcases hBreak with
    ⟨first, run, inProse, hRun, hChars, hStands, rfl⟩
  rcases hCarries with ⟨_, i, hHere, hPlace⟩
  cases inProse with
  | false =>
      have hInside : i < run.length :=
        (List.getElem?_eq_some_iff.mp hHere).1
      rw [originalStart,
        if_pos (isIdentity_of_break first run)] at hPlace
      have hSame : first + i = place := by
        dsimp only at hPlace
        omega
      rw [← hSame, hStands.getElem? hInside]
      exact Or.inl hHere
  | true =>
      have hInside : i < 1 :=
        (List.getElem?_eq_some_iff.mp hHere).1
      obtain rfl : i = 0 := Nat.lt_one_iff.mp hInside
      have hSpace : ' ' = c := Option.some.inj hHere
      have hPositive := List.length_pos_iff.mpr hRun
      have hSame : first = place := by
        simp only [originalStart, span] at hPlace
        split at hPlace <;> omega
      have hFirst := hStands.getElem? hPositive
      rw [Nat.add_zero, hSame,
        List.getElem?_eq_getElem hPositive] at hFirst
      exact Or.inr ⟨hSpace.symm, _, hFirst,
        hChars _ (List.getElem_mem hPositive)⟩

end Segment

/- The texts of a gap are its line breaks. -/
theorem isBreak_of_mem_gapSegments
    {source : Text}
    {inProse : Bool}
    {stop start position : Int}
    {run characters : Text}
    (hPosition : 0 ≤ position)
    (hStands : source.StandsAt characters position.toNat)
    {s : Segment}
    (hMem :
      s ∈ gapSegments inProse stop start position run
        characters)
    (hKind : s.kind = .text) :
    s.IsBreak source := by
  have hMarkup :
      ∀ first last content,
        s ∉ markupBefore first last content := by
    intro first last content hMem
    unfold markupBefore at hMem
    split at hMem
    · rw [List.mem_singleton.mp hMem] at hKind
      cases hKind
    · cases hMem
  fun_induction gapSegments inProse stop start position run
    characters with
  | case1 start position run =>
      exact absurd hMem (hMarkup _ _ _)
  | case2 start position run cs ih =>
      rcases List.mem_append.mp hMem with hRun | hRest
      · exact absurd hRun (hMarkup _ _ _)
      have hNext :
          (position + 2).toNat = position.toNat + 1 + 1 := by
        omega
      rcases List.mem_cons.mp hRest with rfl | hLater
      · refine ⟨position.toNat, ['\r', '\n'], inProse,
          by simp, by simp [isBreakChar], ?_, ?_⟩
        · exact (List.prefix_append _ cs).trans hStands
        · simp only [Segment.mk.injEq, List.length_cons,
            List.length_nil, true_and, and_true]
          omega
      · refine ih (by omega) ?_ hLater
        rw [hNext]
        exact hStands.tail.tail
  | case3 start position run c cs _ hBreak ih =>
      rcases List.mem_append.mp hMem with hRun | hRest
      · exact absurd hRun (hMarkup _ _ _)
      have hNext :
          (position + 1).toNat = position.toNat + 1 := by
        omega
      rcases List.mem_cons.mp hRest with rfl | hLater
      · refine ⟨position.toNat, [c], inProse, by simp,
          by simpa using hBreak, ?_, ?_⟩
        · exact (List.prefix_append [c] cs).trans hStands
        · simp only [Segment.mk.injEq, List.length_singleton,
            true_and, and_true]
          omega
      · refine ih (by omega) ?_ hLater
        rw [hNext]
        exact hStands.tail
  | case4 start position run c cs _ hBreak ih =>
      have hNext :
          (position + 1).toNat = position.toNat + 1 := by
        omega
      refine ih (by omega) ?_ hMem
      rw [hNext]
      exact hStands.tail

end ProseCheck

------------------------------------------------------------
-- What a Walk Hands to its Builder and Nothing Else
------------------------------------------------------------

namespace ProseCheck

namespace Walk

/-
  From one walk to another, the builder has accepted some
  segments, and each text among them is one of these.  The
  walk that is come to is sound.
-/
def HandsOnly
    (w next : Walk)
    (texts : Segment → Prop) : Prop :=
  next.Sound ∧
    ∃ ss, w.builder.addAll ss = .ok next.builder ∧
      ∀ s ∈ ss, s.kind = .text → texts s

variable
  {source : Text}
  {w middle next : Walk}

/- Nothing is handed over where nothing happens. -/
theorem Sound.handsOnly_refl
    (hSound : w.Sound)
    (texts : Segment → Prop) :
    w.HandsOnly w texts :=
  ⟨hSound, [], rfl, by simp⟩

/- Nothing else is handed over on two ways than on each. -/
theorem HandsOnly.trans
    {texts : Segment → Prop}
    (hFirst : w.HandsOnly middle texts)
    (hSecond : middle.HandsOnly next texts) :
    w.HandsOnly next texts := by
  rcases hFirst with ⟨_, ss, hAdd, hSome⟩
  rcases hSecond with ⟨hSound, ts, hRest, hMore⟩
  refine ⟨hSound, ss ++ ts, Builder.addAll_append hAdd hRest,
    ?_⟩
  intro s hMem hKind
  rcases List.mem_append.mp hMem with hHere | hThere
  · exact hSome s hHere hKind
  · exact hMore s hThere hKind

/- More texts may be allowed. -/
theorem HandsOnly.mono
    {some all : Segment → Prop}
    (hSome : w.HandsOnly next some)
    (hAll : ∀ s, some s → all s) :
    w.HandsOnly next all := by
  rcases hSome with ⟨hSound, ss, hAdd, hTexts⟩
  exact ⟨hSound, ss, hAdd,
    fun s hMem hKind => hAll s (hTexts s hMem hKind)⟩

/- A gap hands over its line breaks only. -/
theorem Sound.gap_handsOnly
    (hSound : w.Sound)
    {inProse : Bool}
    {stop : Int}
    (hGap : w.gap source inProse stop = .ok next) :
    w.HandsOnly next (Segment.IsBreak source) := by
  rcases hSound.gap source inProse stop with
    ⟨other, hOther, hNext, _⟩
  obtain rfl : next = other :=
    Except.ok.inj (hGap.symm.trans hOther)
  unfold Walk.gap at hGap
  split at hGap
  · cases hGap
    exact hSound.handsOnly_refl _
  · refine ⟨hNext, _, addAll_of_take hGap, ?_⟩
    intro s hMem hKind
    exact isBreak_of_mem_gapSegments hSound.reached_nonneg
      (Text.standsAt_slice _ _ _) hMem hKind

/- A text that is taken is handed over, and nothing else. -/
theorem Sound.take_handsOnly
    (hSound : w.Sound)
    (t : Node)
    (hTake : w.take t.stop [t.segment] = .ok next) :
    w.HandsOnly next (· = t.segment) := by
  have hAdd := addAll_of_take hTake
  rcases (Builder.addAll_cons_eq_ok_iff _ _).mp hAdd with
    ⟨_, hFirst, _⟩
  rcases Builder.add_cases hFirst with ⟨hStart, hOrder, _⟩
  rw [hSound.reached_eq] at hStart
  have hChain :
      Segment.Chain w.reached t.stop [t.segment] := by
    rw [Segment.chain_singleton_iff]
    exact ⟨hStart, hOrder, rfl⟩
  rcases hSound.take hChain with ⟨other, hOther, hNext, _⟩
  obtain rfl : next = other :=
    Except.ok.inj (hTake.symm.trans hOther)
  exact ⟨hNext, _, hAdd,
    fun s hMem _ => List.mem_singleton.mp hMem⟩

/-
  What may be handed over for a node: the texts of it, and
  line breaks of the source.
-/
def TextsFor
    (source : Text)
    (n : Node)
    (s : Segment) : Prop :=
  s.IsBreak source ∨ ∃ t : Node, t.TextOf n ∧ s = t.segment

/- What may be handed over for a child may be for the node. -/
theorem TextsFor.of_child
    {n c : Node}
    (hKind : n.kind ≠ .text)
    (hMem : c ∈ n.children)
    {s : Segment}
    (hTexts : TextsFor source c s) :
    TextsFor source n s := by
  rcases hTexts with hBreak | ⟨t, hText, hSame⟩
  · exact Or.inl hBreak
  · exact Or.inr ⟨t, .inside hKind hMem hText, hSame⟩

mutual

/- A visit hands over the texts of the node, and breaks. -/
theorem Sound.visit_handsOnly
    (inProse : Bool)
    (n : Node)
    {w next : Walk}
    (hSound : w.Sound)
    (hVisit : visit source inProse n w = .ok next) :
    w.HandsOnly next (TextsFor source n) := by
  match n with
  | ⟨kind, first, last, content, children⟩ =>
      unfold visit at hVisit
      split at hVisit
      -- a paragraph: the children between two gaps
      · split at hVisit
        · cases hVisit
        · rcases bind_eq_ok hVisit with
            ⟨before, hBefore, hVisit⟩
          rcases bind_eq_ok hVisit with ⟨inner, hInner, hEnd⟩
          have hFront := hSound.gap_handsOnly hBefore
          have hMiddle :=
            hFront.1.visitAll_handsOnly true children hInner
          have hBack := hMiddle.1.gap_handsOnly hEnd
          refine (hFront.mono fun _ => Or.inl).trans
            ((hMiddle.mono ?_).trans
              (hBack.mono fun _ => Or.inl))
          rintro s ⟨c, hMem, hTexts⟩
          exact hTexts.of_child (by simp) hMem
      -- a text: the node itself behind a gap
      · split at hVisit
        · cases hVisit
        · rcases bind_eq_ok hVisit with ⟨before, hBefore, hTake⟩
          have hFront := hSound.gap_handsOnly hBefore
          have hText := hFront.1.take_handsOnly
            ⟨.text, first, last, content, children⟩ hTake
          refine (hFront.mono fun _ => Or.inl).trans
            (hText.mono ?_)
          rintro s rfl
          exact Or.inr ⟨_, .root rfl, rfl⟩
      -- any other node: the children
      · rename_i _ hKind
        refine (hSound.visitAll_handsOnly inProse children
          hVisit).mono ?_
        rintro s ⟨c, hMem, hTexts⟩
        exact hTexts.of_child hKind hMem

/- A visit of nodes hands over the texts of all, and breaks. -/
theorem Sound.visitAll_handsOnly
    (inProse : Bool)
    (ns : List Node)
    {w next : Walk}
    (hSound : w.Sound)
    (hVisit : visitAll source inProse ns w = .ok next) :
    w.HandsOnly next
      (fun s => ∃ n ∈ ns, TextsFor source n s) := by
  match ns with
  | [] =>
      unfold visitAll at hVisit
      cases hVisit
      exact hSound.handsOnly_refl _
  | n :: ns =>
      unfold visitAll at hVisit
      rcases bind_eq_ok hVisit with ⟨middle, hFirst, hRest⟩
      have hHere := hSound.visit_handsOnly inProse n hFirst
      have hThere :=
        hHere.1.visitAll_handsOnly inProse ns hRest
      refine (hHere.mono ?_).trans (hThere.mono ?_)
      · exact fun s hTexts => ⟨n, List.mem_cons_self, hTexts⟩
      · rintro s ⟨m, hMem, hTexts⟩
        exact ⟨m, List.mem_cons_of_mem n hMem, hTexts⟩

end

end Walk

end ProseCheck

------------------------------------------------------------
-- Segments of an Annotated Tree
------------------------------------------------------------

namespace ProseCheck

variable
  {source : Text}
  {root : Node}
  {a : AnnotatedText}

/-
  The segments that are read from a tree are merged from
  markup, from the texts of the tree and from line breaks.
-/
theorem annotate_merged
    (hOk : annotate source root = .ok a) :
    ∀ s ∈ a.segments,
      Builder.Merged
        (fun t => t.kind = .markup ∨
          Walk.TextsFor source root t) s := by
  unfold annotate at hOk
  rcases bind_eq_ok hOk with ⟨inner, hVisit, hOk⟩
  rcases bind_eq_ok hOk with ⟨last, hGap, hOk⟩
  split at hOk
  · rename_i built hBuild
    cases hOk
    have hTree := Walk.sound_start.visit_handsOnly false root
      hVisit
    have hRest := hTree.1.gap_handsOnly hGap
    rcases hTree.trans (hRest.mono fun _ => Or.inl) with
      ⟨hSound, ss, hAdd, hTexts⟩
    intro s hMem
    rw [(hSound.builder.of_build hBuild).1, Builder.segments,
      List.mem_reverse] at hMem
    refine Builder.merged_of_addAll ?_ ?_ hAdd s hMem
    · simp [Walk.start, Builder.empty]
    · intro t hAccepted
      cases hKind : t.kind with
      | markup => exact Or.inl rfl
      | text => exact Or.inr (hTexts t hAccepted hKind)
  · cases hOk

/-
  What holds of all that stands for itself, of line breaks and
  of the texts of a tree holds of every text segment that is
  read from the tree.
-/
theorem annotate_forall
    (hOk : annotate source root = .ok a)
    {p : Segment → Prop}
    (hIdentity : ∀ s : Segment, s.isIdentity = true → p s)
    (hBreaks : ∀ s : Segment, s.IsBreak source → p s)
    (hTexts : ∀ t : Node, t.TextOf root → p t.segment) :
    ∀ s ∈ a.segments, s.kind = .text → p s := by
  intro s hMem
  refine (annotate_merged hOk s hMem).of_given
    (p := fun t => t.kind = .text → p t) ?_ ?_
  · rintro t (hMarkup | hSelf) hKind
    · rw [hMarkup] at hKind
      cases hKind
    · exact hIdentity t hSelf
  · rintro t (hMarkup | hBreak | ⟨n, hText, rfl⟩) hKind
    · rw [hMarkup] at hKind
      cases hKind
    · exact hBreaks t hBreak
    · exact hTexts n hText

/-
  Each plain character that is read from a tree comes, for
  the place where its offset is taken to, from a line break
  or from a text of the tree.
-/
theorem annotate_carries
    (hOk : annotate source root = .ok a)
    {offset : Nat}
    (hOffset : offset < a.plainText.length) :
    ∃ (c : Char) (place : Nat),
      a.plainText[offset]? = some c ∧
        a.originalOffset offset = .ok (place : Int) ∧
        ∃ s, Walk.TextsFor source root s ∧
          s.Carries c place := by
  rcases AnnotatedText.originalOffset_bounds
    (annotate_keeps_texts hOk).1 (Nat.le_of_lt hOffset) false
    with ⟨place, hPlace, _⟩
  rcases a.exists_carries hOffset with
    ⟨s, hMem, c, other, hHere, hOther, hCarries⟩
  obtain rfl := Except.ok.inj (hPlace.symm.trans hOther)
  rcases (annotate_merged hOk s hMem).carries hCarries with
    ⟨t, hGiven, hBrought⟩
  refine ⟨c, place, hHere, hPlace, t, ?_, hBrought⟩
  -- a segment that carries a character is no markup
  refine hGiven.resolve_left ?_
  rw [hBrought.1]
  simp

end ProseCheck

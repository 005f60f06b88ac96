import ProseCheck.Proofs.Annotated.Parts
import ProseCheck.Proofs.Tree.Annotation

/-
  This file follows the text nodes of a tree into the
  annotated text that is read from it, whatever the tree is.
  A reading that comes to an end has handed every text to the
  builder, so each text with a stretch of its own is in the
  plain text, and is mapped to this stretch.

  A text is read as a leaf.  What stands inside of one is not
  visited, and its characters are not read as text.

  Main declarations:
    * `Node.TextOf`
    * `Walk.visit_hands`
    * `annotate_maps_texts`
    * `annotate_text_in_text`
-/

------------------------------------------------------------
-- Texts of a Tree
------------------------------------------------------------

namespace ProseCheck

namespace Node

/-
  A text of a tree: it is the root, or stands inside of it
  without another text around it.
-/
inductive TextOf : Node → Node → Prop where
  | root
      {t : Node}
      (hKind : t.kind = .text) : TextOf t t
  | inside
      {t child outer : Node}
      (hKind : outer.kind ≠ .text)
      (hMem : child ∈ outer.children)
      (hText : TextOf t child) : TextOf t outer

/- A text of a tree is a text. -/
theorem TextOf.kind_eq
    {t n : Node}
    (hText : t.TextOf n) :
    t.kind = .text := by
  induction hText with
  | root hKind => exact hKind
  | inside _ _ _ ih => exact ih

/- The only text of a text is the text itself. -/
theorem TextOf.eq_of_text
    {t n : Node}
    (hText : t.TextOf n)
    (hKind : n.kind = .text) :
    t = n := by
  cases hText with
  | root _ => rfl
  | inside hOther _ _ => exact absurd hKind hOther

/- The texts of any other node are those of its children. -/
theorem TextOf.of_ne
    {t n : Node}
    (hText : t.TextOf n)
    (hKind : n.kind ≠ .text) :
    ∃ c ∈ n.children, t.TextOf c := by
  cases hText with
  | root hSame => exact absurd hSame hKind
  | inside _ hMem hInner => exact ⟨_, hMem, hInner⟩

/- The segment that a text is read as. -/
def segment
    (n : Node) : Segment :=
  ⟨.text, n.start, n.stop, n.content⟩

end Node

end ProseCheck

------------------------------------------------------------
-- What a Walk Hands to its Builder
------------------------------------------------------------

namespace ProseCheck

/- A step that succeeds has a step before it that does. -/
theorem bind_eq_ok
    {ε α β : Type}
    {x : Except ε α}
    {f : α → Except ε β}
    {b : β}
    (hBind : (x >>= f) = .ok b) :
    ∃ a, x = .ok a ∧ f a = .ok b := by
  cases x with
  | ok a => exact ⟨a, rfl, hBind⟩
  | error e => cases hBind

namespace Walk

/-
  From one walk to another, the builder has accepted some
  segments, and these are among them.
-/
def Hands
    (w next : Walk)
    (segments : Segment → Prop) : Prop :=
  ∃ ss, w.builder.addAll ss = .ok next.builder ∧
    ∀ s, segments s → s ∈ ss

/- Nothing is handed over where nothing happens. -/
theorem hands_refl
    (w : Walk) :
    w.Hands w (fun _ => False) :=
  ⟨[], rfl, fun _ hNone => hNone.elim⟩

/- What is handed over on the way is handed over in the end. -/
theorem Hands.trans
    {w middle next : Walk}
    {first second : Segment → Prop}
    (hFirst : w.Hands middle first)
    (hSecond : middle.Hands next second) :
    w.Hands next (fun s => first s ∨ second s) := by
  rcases hFirst with ⟨ss, hAdd, hSome⟩
  rcases hSecond with ⟨ts, hRest, hMore⟩
  refine ⟨ss ++ ts, Builder.addAll_append hAdd hRest, ?_⟩
  rintro s (hHere | hThere)
  · exact List.mem_append_left ts (hSome s hHere)
  · exact List.mem_append_right ss (hMore s hThere)

/- Less is handed over as well. -/
theorem Hands.mono
    {w next : Walk}
    {some all : Segment → Prop}
    (hAll : w.Hands next all)
    (hSome : ∀ s, some s → all s) :
    w.Hands next some := by
  rcases hAll with ⟨ss, hAdd, hMem⟩
  exact ⟨ss, hAdd, fun s hHere => hMem s (hSome s hHere)⟩

/- The segments that a walk takes are handed over. -/
theorem hands_of_take
    {w next : Walk}
    {stop : Int}
    {ss : List Segment}
    (hTake : w.take stop ss = .ok next) :
    w.Hands next (· ∈ ss) :=
  ⟨ss, addAll_of_take hTake, fun _ hMem => hMem⟩

/- A gap hands something over, whatever it is. -/
theorem hands_of_gap
    {source : Text}
    {inProse : Bool}
    {stop : Int}
    {w next : Walk}
    (hGap : w.gap source inProse stop = .ok next) :
    w.Hands next (fun _ => False) := by
  unfold gap at hGap
  split at hGap
  · cases hGap
    exact hands_refl w
  · exact (hands_of_take hGap).mono
      (fun _ hNone => hNone.elim)

mutual

/- A visit of a node hands over the texts of the node. -/
theorem visit_hands
    (source : Text)
    (inProse : Bool)
    (n : Node)
    {w next : Walk}
    (hVisit : visit source inProse n w = .ok next) :
    w.Hands next
      (fun s => ∃ t : Node, t.TextOf n ∧ s = t.segment) := by
  match n with
  | ⟨kind, first, last, content, children⟩ =>
      unfold visit at hVisit
      split at hVisit
      -- a paragraph: the children between two gaps
      · split at hVisit
        · cases hVisit
        · rcases bind_eq_ok hVisit with
            ⟨before, hBefore, hVisit⟩
          rcases bind_eq_ok hVisit with ⟨inner, hInner, hEnd⟩
          refine ((hands_of_gap hBefore).trans
            ((visitAll_hands source true children
              hInner).trans (hands_of_gap hEnd))).mono ?_
          rintro s ⟨t, hText, rfl⟩
          rcases hText.of_ne (by simp) with ⟨c, hMem, hChild⟩
          exact Or.inr (Or.inl ⟨c, hMem, t, hChild, rfl⟩)
      -- a text: the node itself behind a gap
      · split at hVisit
        · cases hVisit
        · rcases bind_eq_ok hVisit with ⟨before, hBefore, hTake⟩
          refine ((hands_of_gap hBefore).trans
            (hands_of_take hTake)).mono ?_
          rintro s ⟨t, hText, rfl⟩
          rw [hText.eq_of_text rfl]
          exact Or.inr (List.mem_singleton_self _)
      -- any other node: the children
      · rename_i _ hKind
        refine (visitAll_hands source inProse children
          hVisit).mono ?_
        rintro s ⟨t, hText, rfl⟩
        rcases hText.of_ne hKind with ⟨c, hMem, hChild⟩
        exact ⟨c, hMem, t, hChild, rfl⟩

/- A visit of nodes hands over the texts of all of them. -/
theorem visitAll_hands
    (source : Text)
    (inProse : Bool)
    (ns : List Node)
    {w next : Walk}
    (hVisit : visitAll source inProse ns w = .ok next) :
    w.Hands next
      (fun s => ∃ n ∈ ns, ∃ t : Node,
        t.TextOf n ∧ s = t.segment) := by
  match ns with
  | [] =>
      unfold visitAll at hVisit
      cases hVisit
      exact (hands_refl w).mono (by simp)
  | n :: ns =>
      unfold visitAll at hVisit
      rcases bind_eq_ok hVisit with ⟨middle, hFirst, hRest⟩
      refine ((visit_hands source inProse n hFirst).trans
        (visitAll_hands source inProse ns hRest)).mono ?_
      rintro s ⟨m, hMem, hText⟩
      rcases List.mem_cons.mp hMem with rfl | hLater
      · exact Or.inl hText
      · exact Or.inr ⟨m, hLater, hText⟩

end

end Walk

end ProseCheck

------------------------------------------------------------
-- Texts of an Annotated Tree
------------------------------------------------------------

namespace ProseCheck

/-
  A tree that is read gives a covering text, in which each
  text of the tree that covers anything is part of a segment.
-/
theorem annotate_keeps_texts
    {source : Text}
    {root : Node}
    {a : AnnotatedText}
    (hOk : annotate source root = .ok a) :
    a.Covers source.length ∧
      ∀ t : Node, t.TextOf root → t.start < t.stop →
        ∃ s ∈ a.segments, t.segment.PartOf s := by
  unfold annotate at hOk
  rcases bind_eq_ok hOk with ⟨inner, hVisit, hOk⟩
  rcases bind_eq_ok hOk with ⟨last, hGap, hOk⟩
  split at hOk
  · rename_i built hBuild
    cases hOk
    rcases (Walk.visit_hands source false root hVisit).trans
        (Walk.hands_of_gap hGap) with ⟨ss, hAdd, hMem⟩
    rcases (Builder.sound_empty.of_addAll hAdd).of_build
        hBuild with ⟨hSegments, hCovers⟩
    refine ⟨hCovers, ?_⟩
    intro t hText hOrder
    have hHanded := hMem t.segment (Or.inl ⟨t, hText, rfl⟩)
    rcases Builder.keeps_of_addAll hAdd hHanded rfl hOrder
      with ⟨s, hRecent, hPart⟩
    refine ⟨s, ?_, hPart⟩
    rw [hSegments, Builder.segments]
    exact List.mem_reverse.mpr hRecent
  · cases hOk

/-
  Each text of a tree that is read, and that covers a stretch
  of the source, is in the plain text where the start of the
  stretch is taken to.  If it has any content, the first
  character begins where the stretch does, and the last one
  ends where it ends.
-/
theorem annotate_maps_texts
    {source : Text}
    {root : Node}
    {a : AnnotatedText}
    (hOk : annotate source root = .ok a)
    {t : Node}
    (hText : t.TextOf root)
    (hOrder : t.start < t.stop) :
    ∃ p : Nat,
      a.plainOffset t.start = .ok (p : Int) ∧
        a.plainText.slice p (p + t.content.length) =
          t.content ∧
        (t.content ≠ [] →
          a.originalOffset p = .ok t.start ∧
            a.originalOffset (p + t.content.length : Nat)
              true = .ok t.stop) := by
  rcases annotate_keeps_texts hOk with ⟨hCovers, hParts⟩
  rcases hParts t hText hOrder with ⟨s, hMem, hPart⟩
  exact AnnotatedText.maps_part hCovers hMem hPart rfl hOrder

/-
  A character that is written by its name, between two texts
  that stand for themselves.  It is mapped to all of its name.
-/
theorem annotate_maps_texts_entity :
    let source : Text := ['a', '&', 'l', 't', ';', 'b']
    let t : Node := ⟨.text, 1, 5, ['<'], []⟩
    let root : Node :=
      ⟨.paragraph, 0, 6, [],
        [⟨.text, 0, 1, ['a'], []⟩, ⟨.strong, 1, 5, [], [t]⟩,
          ⟨.text, 5, 6, ['b'], []⟩]⟩
    let a : AnnotatedText :=
      ⟨[⟨.text, 0, 1, ['a']⟩, ⟨.text, 1, 5, ['<']⟩,
        ⟨.text, 5, 6, ['b']⟩], 6⟩
    annotate source root = .ok a ∧ t.TextOf root ∧
      t.start < t.stop ∧
      ∃ p : Nat,
        a.plainOffset t.start = .ok (p : Int) ∧
          a.plainText.slice p (p + t.content.length) =
            t.content ∧
          (t.content ≠ [] →
            a.originalOffset p = .ok t.start ∧
              a.originalOffset (p + t.content.length : Nat)
                true = .ok t.stop) := by
  intro source t root a
  have hOk : annotate source root = .ok a := by
    rfl
  have hStrong : t.TextOf ⟨.strong, 1, 5, [], [t]⟩ :=
    .inside (by decide) List.mem_cons_self (.root rfl)
  have hText : t.TextOf root :=
    .inside (by decide) (by simp [root]) hStrong
  have hOrder : t.start < t.stop := by
    decide
  exact ⟨hOk, hText, hOrder,
    annotate_maps_texts hOk hText hOrder⟩

/-
  A text inside of another text.  It is a leaf of the tree and
  covers a character, but it is not visited: the character is
  markup, and nothing of the plain text is read for it.
-/
theorem annotate_text_in_text :
    let source : Text := ['a', 'b']
    let t : Node := ⟨.text, 1, 2, ['b'], []⟩
    let root : Node := ⟨.text, 0, 1, ['a'], [t]⟩
    let a : AnnotatedText :=
      ⟨[⟨.text, 0, 1, ['a']⟩, ⟨.markup, 1, 2, ['b']⟩], 2⟩
    annotate source root = .ok a ∧ t.Below root ∧
      t.kind = .text ∧ t.children = [] ∧ t.start < t.stop ∧
      a.plainOffset t.start = .ok 1 ∧
      a.plainText.slice 1 (1 + t.content.length) ≠
        t.content := by
  intro source t root a
  have hOk : annotate source root = .ok a := by
    rfl
  have hPlace : a.plainOffset t.start = .ok 1 := by
    dsimp only [a, t]
    rfl
  exact ⟨hOk, .child List.mem_cons_self, rfl, rfl,
    by decide, hPlace, by decide⟩

end ProseCheck

import ProseCheck.Proofs.Tree.Location
import ProseCheck.Proofs.Tree.Texts

/-
  This file follows the texts of a located tree back to the
  tokens that they are made from.  A text token stands in the
  source as itself.  A special one stands there as its markup:
  an escaped character behind a backslash, which stays out of
  the text, and an entity as a whole.

  Only leaves make texts, and a leaf is located by the state
  in which it is met.  So the texts in the open containers
  all come from leaves met so far, and every step keeps this.

  Main declarations:
    * `Token.Makes`
    * `Token.LocatedAt`
    * `Locator.leaf_grows`
    * `Locator.step_bears`
    * `Token.LocatedAt.makes`
    * `exists_locatedAt`
    * `forall_locatedAt`
-/

------------------------------------------------------------
-- Texts of Tokens
------------------------------------------------------------

namespace ProseCheck

namespace Node

/-
  A text node that is found as a needle of the source.  The
  first `skip` characters of the needle are not part of it.
-/
def WrittenAs
    (source needle content : Text)
    (skip : Nat)
    (n : Node) : Prop :=
  needle ≠ [] ∧
    ∃ index : Nat, source.StandsAt needle index ∧
      n = ⟨.text, index + skip, (index + needle.length : Nat),
        content, []⟩

/-
  A text that is written as its content, behind the characters
  that are skipped, stands for itself.
-/
theorem WrittenAs.isIdentity
    {source needle content : Text}
    {skip : Nat}
    {n : Node}
    (hWritten : n.WrittenAs source needle content skip)
    (hContent : needle.drop skip = content)
    (hSkip : skip ≤ needle.length) :
    n.segment.isIdentity = true := by
  rcases hWritten with ⟨_, index, _, rfl⟩
  have hLength := congrArg List.length hContent
  rw [List.length_drop] at hLength
  rw [Segment.isIdentity_iff]
  dsimp only [segment]
  omega

end Node

namespace Token

/- A token of something that is not written as itself. -/
def IsSpecial
    (t : Token) : Prop :=
  t.name = "text_special"

/- A special token of a character behind a backslash. -/
def IsEscape
    (t : Token) : Prop :=
  t.IsSpecial ∧ t.info = "escape" ∧
    t.markup.head? = some '\\'

/- A special token of another kind, such as an entity. -/
def IsEntity
    (t : Token) : Prop :=
  t.IsSpecial ∧ ¬ t.IsEscape

instance
    (t : Token) :
    Decidable t.IsSpecial := by
  unfold IsSpecial
  infer_instance

instance
    (t : Token) :
    Decidable t.IsEscape := by
  unfold IsEscape
  infer_instance

instance
    (t : Token) :
    Decidable t.IsEntity := by
  unfold IsEntity
  infer_instance

/-
  The text node of a token: a text is written as itself, an
  escaped character as its markup, from the second character
  on, and an entity as its markup, or else as its content.
-/
def Makes
    (source : Text)
    (t : Token)
    (n : Node) : Prop :=
  (t.name = "text" ∧
      n.WrittenAs source t.content t.content 0) ∨
    (t.IsEscape ∧ n.WrittenAs source t.markup t.content 1) ∨
    (t.IsEntity ∧
      n.WrittenAs source
        (if t.markup.isEmpty then t.content else t.markup)
        t.content 0)

/- The text node of a token has the content of the token. -/
theorem Makes.content_eq
    {source : Text}
    {t : Token}
    {n : Node}
    (hMakes : t.Makes source n) :
    n.content = t.content := by
  rcases hMakes with ⟨_, _, _, _, rfl⟩ |
    ⟨_, _, _, _, rfl⟩ | ⟨_, _, _, _, rfl⟩ <;> rfl

end Token

end ProseCheck

------------------------------------------------------------
-- Located Tokens
------------------------------------------------------------

namespace ProseCheck

namespace Locator

mutual

/-
  The leaves of a token, each with the state in which it is
  met.  What stands inside of a token that opens or closes a
  container is not met at all.
-/
def leaves
    (source : Text) :
    Token → Locator → List (Token × Locator)
  | ⟨name, nesting, lines, content, markup, info, children⟩,
      l =>
      if nesting = 1 ∨ nesting = -1 then
        []
      else if name = "inline" then
        leavesAll source children l
      else if name = "image" then
        leavesAll source children
          { l with top := { kind := .image }, outer := [] }
      else
        [(⟨name, nesting, lines, content, markup, info,
          children⟩, l)]

/- The leaves of several tokens, in their order. -/
def leavesAll
    (source : Text) :
    List Token → Locator → List (Token × Locator)
  | [], _ => []
  | t :: ts, l =>
      leaves source t l ++
        leavesAll source ts (step source t l)

end

end Locator

/-
  The token is met as a leaf, and is located as the node: it
  adds the node to the container that is open.
-/
def Token.LocatedAt
    (source : Text)
    (tokens : List Token)
    (t : Token)
    (n : Node) : Prop :=
  ∃ l : Locator,
    (t, l) ∈
        Locator.leavesAll source tokens
          (Locator.start source) ∧
      (Locator.step source t l).top = l.top.add n

end ProseCheck

------------------------------------------------------------
-- Leaves
------------------------------------------------------------

namespace ProseCheck

namespace Locator

/-
  From one state to another, nothing happens to the open
  containers, but that a node may be added to the innermost.
-/
def Grows
    (added : Node → Prop)
    (l next : Locator) : Prop :=
  next.outer = l.outer ∧
    (next.top = l.top ∨
      ∃ n, added n ∧ next.top = l.top.add n)

/- Another reason may be given for the node that is added. -/
theorem Grows.mono
    {some all : Node → Prop}
    {l next : Locator}
    (hGrows : l.Grows some next)
    (hAll : ∀ n, some n → all n) :
    l.Grows all next := by
  rcases hGrows with ⟨hOuter, hSame | ⟨n, hAdded, hTop⟩⟩
  · exact ⟨hOuter, Or.inl hSame⟩
  · exact ⟨hOuter, Or.inr ⟨n, hAll n hAdded, hTop⟩⟩

/- What is written in the source is added where it stands. -/
theorem written_grows
    (source : Text)
    (kind : NodeKind)
    (needle content : Text)
    (skip : Nat)
    (l : Locator) :
    l.Grows
      (fun n => n.children = [] ∧
        (n.kind = .text →
          n.WrittenAs source needle content skip))
      (l.written source kind needle content skip) := by
  unfold written
  split
  · exact ⟨rfl, Or.inl rfl⟩
  · rename_i index hFind
    refine ⟨rfl, Or.inr ⟨_, ⟨rfl, ?_⟩, rfl⟩⟩
    rintro rfl
    unfold find? at hFind
    split at hFind
    · cases hFind
    · rename_i hEmpty
      exact ⟨fun hNone => hEmpty (List.isEmpty_iff.mpr hNone),
        index, Text.standsAt_of_findIn? hFind, rfl⟩

/- A leaf adds what its token makes, or no text at all. -/
theorem leaf_grows
    (source : Text)
    (t : Token)
    (l : Locator) :
    l.Grows
      (fun n => n.children = [] ∧
        (n.kind = .text → t.Makes source n))
      (l.leaf source t.name t.lines t.content t.markup
        t.info) := by
  unfold leaf
  split
  -- a block without tokens
  · rename_i kind hKind
    unfold leafBlock
    split
    · exact ⟨rfl, Or.inl rfl⟩
    · refine ⟨rfl, Or.inr ⟨_, ⟨rfl, ?_⟩, rfl⟩⟩
      rintro rfl
      exact absurd hKind (leafBlockKind?_ne_text t.name)
  split
  · rename_i hName
    exact (written_grows source _ _ _ 0 l).mono
      (fun n hAdded => ⟨hAdded.1, fun hText =>
        Or.inl ⟨hName, hAdded.2 hText⟩⟩)
  split
  · rename_i hName
    unfold special
    split
    · rename_i hEscape
      exact (written_grows source _ _ _ 1 l).mono
        (fun n hAdded => ⟨hAdded.1, fun hText =>
          Or.inr (Or.inl ⟨⟨hName, hEscape⟩,
            hAdded.2 hText⟩)⟩)
    · rename_i hEntity
      exact (written_grows source _ _ _ 0 l).mono
        (fun n hAdded => ⟨hAdded.1, fun hText =>
          Or.inr (Or.inr
            ⟨⟨hName, fun hEscape => hEntity hEscape.2⟩,
              hAdded.2 hText⟩)⟩)
  split
  · rw [codeSpan]
    generalize (if t.markup.isEmpty then [codeMark]
      else t.markup) = run
    split
    · exact ⟨rfl, Or.inl rfl⟩
    · dsimp only
      split
      · exact ⟨rfl, Or.inl rfl⟩
      · exact ⟨rfl, Or.inr ⟨_, ⟨rfl, by simp⟩, rfl⟩⟩
  split
  -- what is written as a tag is not text
  · unfold written
    split
    · exact ⟨rfl, Or.inl rfl⟩
    · exact ⟨rfl, Or.inr ⟨_, ⟨rfl, by simp⟩, rfl⟩⟩
  · exact ⟨rfl, Or.inl rfl⟩

/- A token that is none of the others is taken as a leaf. -/
theorem step_of_leaf
    (source : Text)
    {t : Token}
    (hNesting : ¬ (t.nesting = 1 ∨ t.nesting = -1))
    (hInline : t.name ≠ "inline")
    (hImage : t.name ≠ "image")
    (l : Locator) :
    step source t l =
      l.leaf source t.name t.lines t.content t.markup
        t.info := by
  rcases not_or.mp hNesting with ⟨hOpen, hClose⟩
  cases t
  unfold step
  rw [if_neg hOpen, if_neg hClose, if_neg hInline,
    if_neg hImage]

mutual

/- The leaves of a token are taken as leaves. -/
theorem step_of_mem_leaves
    {source : Text}
    (t : Token)
    {l m : Locator}
    {u : Token}
    (hMem : (u, m) ∈ leaves source t l) :
    step source u m =
      m.leaf source u.name u.lines u.content u.markup
        u.info := by
  match t with
  | ⟨name, nesting, lines, content, markup, info,
      children⟩ =>
      unfold leaves at hMem
      split at hMem
      · cases hMem
      split at hMem
      · exact step_of_mem_leavesAll children hMem
      split at hMem
      · exact step_of_mem_leavesAll children hMem
      · rename_i hNesting hInline hImage
        rcases Prod.mk.inj (List.mem_singleton.mp hMem) with
          ⟨rfl, rfl⟩
        exact step_of_leaf source hNesting hInline hImage m

/- The leaves of several tokens are taken as leaves. -/
theorem step_of_mem_leavesAll
    {source : Text}
    (ts : List Token)
    {l m : Locator}
    {u : Token}
    (hMem : (u, m) ∈ leavesAll source ts l) :
    step source u m =
      m.leaf source u.name u.lines u.content u.markup
        u.info := by
  match ts with
  | [] =>
      unfold leavesAll at hMem
      cases hMem
  | t :: ts =>
      unfold leavesAll at hMem
      rcases List.mem_append.mp hMem with hFirst | hLater
      · exact step_of_mem_leaves t hFirst
      · exact step_of_mem_leavesAll ts hLater

end

end Locator

/- Frames with one more child differ if the children do. -/
theorem Frame.add_inj
    {f : Frame}
    {m n : Node}
    (hSame : f.add m = f.add n) :
    m = n :=
  (List.cons.inj (Frame.mk.inj hSame).2.2.2.2).1

/- A frame with one more child is another one. -/
theorem Frame.add_ne
    (f : Frame)
    (n : Node) :
    f.add n ≠ f := by
  intro hSame
  have hChildren := congrArg (fun g => g.recent.length) hSame
  exact absurd hChildren (Nat.succ_ne_self _)

/- A located token has made its text node. -/
theorem Token.LocatedAt.makes
    {source : Text}
    {tokens : List Token}
    {t : Token}
    {n : Node}
    (hLocated : t.LocatedAt source tokens n)
    (hKind : n.kind = .text) :
    t.Makes source n := by
  rcases hLocated with ⟨l, hMem, hTop⟩
  rw [Locator.step_of_mem_leavesAll tokens hMem] at hTop
  rcases (Locator.leaf_grows source t l).2 with
    hSame | ⟨m, ⟨_, hMakes⟩, hAdded⟩
  · exact absurd (hTop.symm.trans hSame) (l.top.add_ne n)
  · rw [Frame.add_inj (hTop.symm.trans hAdded)] at hKind ⊢
    exact hMakes hKind

end ProseCheck

------------------------------------------------------------
-- Texts in Containers
------------------------------------------------------------

namespace ProseCheck

variable {p : Node → Prop}

/- A frame is no text, and all texts in it have a property. -/
structure Frame.Bears
    (p : Node → Prop)
    (f : Frame) : Prop where
  isContainer : f.kind ≠ .text
  texts : ∀ c ∈ f.recent, ∀ t : Node, t.TextOf c → p t

namespace Frame.Bears

variable {f : Frame}

/- A frame may take a node with such texts. -/
theorem add
    (hBears : f.Bears p)
    {n : Node}
    (hNode : ∀ t : Node, t.TextOf n → p t) :
    (f.add n).Bears p := by
  refine ⟨hBears.isContainer, ?_⟩
  intro c hMem
  rcases List.mem_cons.mp hMem with rfl | hOlder
  · exact hNode
  · exact hBears.texts c hOlder

/- A frame may be told where in the source it ends. -/
theorem stop_at
    (hBears : f.Bears p)
    (last : Option Nat) :
    { f with stop := last }.Bears p :=
  ⟨hBears.isContainer, hBears.texts⟩

/- The texts of a closed frame are those of its children. -/
theorem close
    (hBears : f.Bears p)
    (fallback : Nat)
    {t : Node}
    (hText : t.TextOf (f.close fallback)) :
    p t := by
  rcases hText.of_ne hBears.isContainer with ⟨c, hMem, hChild⟩
  exact hBears.texts c (List.mem_reverse.mp hMem) t hChild

end Frame.Bears

namespace Locator

/- All texts in the open containers have a property. -/
def Bears
    (p : Node → Prop)
    (l : Locator) : Prop :=
  ∀ f ∈ l.top :: l.outer, f.Bears p

namespace Bears

variable
  {source : Text}
  {l : Locator}

/- A frame without children bears whatever is asked. -/
theorem cons_empty
    (hBears : l.Bears p)
    {f next : Frame}
    (hKind : f.kind ≠ .text)
    (hChildren : f.recent = [])
    (hMem : next ∈ f :: l.top :: l.outer) :
    next.Bears p := by
  rcases List.mem_cons.mp hMem with rfl | hOuter
  · refine ⟨hKind, ?_⟩
    rw [hChildren]
    simp
  · exact hBears next hOuter

/- An opened container has no texts in it. -/
theorem openFrame
    (hBears : l.Bears p)
    (name : String)
    (lines : Option (Int × Int))
    (markup : Text) :
    (l.openFrame source name lines markup).Bears p := by
  have hKind := containerKind_ne_text name
  unfold Locator.openFrame
  split <;>
    exact fun f hMem => hBears.cons_empty hKind rfl hMem

/- The end of a link has no texts in it. -/
theorem finish
    (hBears : l.Bears p) :
    (l.finish source).Bears p := by
  unfold Locator.finish
  split
  · intro f hMem
    rcases List.mem_cons.mp hMem with rfl | hOuter
    · exact (hBears l.top List.mem_cons_self).stop_at _
    · exact hBears f (List.mem_cons_of_mem _ hOuter)
  · exact hBears

/- A closed container goes to the one around it. -/
theorem closeFrame
    (hBears : l.Bears p) :
    (l.closeFrame source).Bears p := by
  unfold Locator.closeFrame
  split
  · exact hBears
  · rename_i parent outer hParent
    have hFinish : (l.finish source).Bears p := hBears.finish
    have hTop := hFinish (l.finish source).top
      List.mem_cons_self
    have hOuter : ∀ g ∈ parent :: outer, g.Bears p := by
      intro g hMem
      rw [← hParent] at hMem
      exact hBears g (List.mem_cons_of_mem _ hMem)
    intro f hMem
    rcases List.mem_cons.mp hMem with rfl | hRest
    · exact (hOuter parent List.mem_cons_self).add
        (fun t hText => hTop.close _ hText)
    · exact hOuter f (List.mem_cons_of_mem _ hRest)

/- A closed image goes to the container around it. -/
theorem image
    (hBears : l.Bears p)
    {inside : Locator}
    (hInside : inside.Bears p) :
    (closeImage source
      ((inside.top :: inside.outer).getLast?.getD inside.top)
      { inside with top := l.top, outer := l.outer }).Bears
        p := by
  have hFrame :
      ((inside.top :: inside.outer).getLast?.getD
        inside.top).Bears p := by
    rw [List.getLast?_eq_some_getLast (List.cons_ne_nil _ _),
      Option.getD_some]
    exact hInside _ (List.getLast_mem _)
  intro f hMem
  rcases List.mem_cons.mp hMem with rfl | hOuter
  · exact (hBears l.top List.mem_cons_self).add
      (fun t hText => (hFrame.stop_at _).close _ hText)
  · exact hBears f (List.mem_cons_of_mem _ hOuter)

/- A node that is added brings its own texts. -/
theorem grows
    (hBears : l.Bears p)
    {added : Node → Prop}
    {next : Locator}
    (hGrows : l.Grows added next)
    (hAdded :
      ∀ n, added n → next.top = l.top.add n →
        ∀ t : Node, t.TextOf n → p t) :
    next.Bears p := by
  rcases hGrows with ⟨hOuter, hTop⟩
  intro f hMem
  rw [hOuter] at hMem
  rcases List.mem_cons.mp hMem with rfl | hRest
  · have hBefore := hBears l.top List.mem_cons_self
    rcases hTop with hSame | ⟨n, hReason, hAdd⟩
    · rw [hSame]
      exact hBefore
    · rw [hAdd]
      exact hBefore.add (hAdded n hReason hAdd)
  · exact hBears f (List.mem_cons_of_mem _ hRest)

end Bears

end Locator

end ProseCheck

------------------------------------------------------------
-- Token Streams
------------------------------------------------------------

namespace ProseCheck

namespace Locator

variable {p : Node → Prop}

/- The texts that leaves of a list add have a property. -/
def Brings
    (source : Text)
    (p : Node → Prop)
    (met : List (Token × Locator)) : Prop :=
  ∀ u m, (u, m) ∈ met →
    ∀ n : Node, n.kind = .text →
      (step source u m).top = m.top.add n → p n

mutual

/- A step keeps what the leaves of the token bring. -/
theorem step_bears
    {source : Text}
    (t : Token)
    {l : Locator}
    (hBears : l.Bears p)
    (hBrings : Brings source p (leaves source t l)) :
    (step source t l).Bears p := by
  match t with
  | ⟨name, nesting, lines, content, markup, info,
      children⟩ =>
      unfold leaves at hBrings
      unfold step
      split
      · exact hBears.openFrame name lines markup
      split
      · exact hBears.closeFrame
      rename_i hOpen hClose
      have hNesting := not_or.mpr ⟨hOpen, hClose⟩
      rw [if_neg hNesting] at hBrings
      split
      · rename_i hInline
        rw [if_pos hInline] at hBrings
        exact consume_bears children hBears hBrings
      rename_i hInline
      rw [if_neg hInline] at hBrings
      split
      · rename_i hImage
        rw [if_pos hImage] at hBrings
        refine hBears.image
          (consume_bears children ?_ hBrings)
        intro f hMem
        rw [List.mem_singleton.mp hMem]
        exact ⟨nofun, nofun⟩
      · rename_i hImage
        rw [if_neg hImage] at hBrings
        have hLeaf := step_of_leaf source
          (t := ⟨name, nesting, lines, content, markup, info,
            children⟩) hNesting hInline hImage l
        refine hBears.grows (leaf_grows source ⟨name, nesting,
          lines, content, markup, info, children⟩ l) ?_
        rintro n ⟨hChildren, _⟩ hTop t hText
        -- a leaf has no text in it but itself
        by_cases hKind : n.kind = .text
        · rw [hText.eq_of_text hKind]
          refine hBrings _ l List.mem_cons_self n hKind ?_
          rw [hLeaf]
          exact hTop
        · rcases hText.of_ne hKind with ⟨c, hMem, _⟩
          rw [hChildren] at hMem
          cases hMem

/- A run keeps what the leaves of its tokens bring. -/
theorem consume_bears
    {source : Text}
    (ts : List Token)
    {l : Locator}
    (hBears : l.Bears p)
    (hBrings : Brings source p (leavesAll source ts l)) :
    (consume source ts l).Bears p := by
  match ts with
  | [] =>
      unfold consume
      exact hBears
  | t :: ts =>
      unfold leavesAll at hBrings
      unfold consume
      refine consume_bears ts (step_bears t hBears ?_) ?_
      · intro u m hMem
        exact hBrings u m (List.mem_append_left _ hMem)
      · intro u m hMem
        exact hBrings u m (List.mem_append_right _ hMem)

end

/- The frame left of a stack bears what the stack bears. -/
theorem closeAll_bears
    (cursor : Nat)
    {top : Frame}
    {outer : List Frame}
    (hFrames : ∀ f ∈ top :: outer, f.Bears p) :
    (closeAll cursor top outer).Bears p := by
  induction outer generalizing top with
  | nil => exact hFrames top List.mem_cons_self
  | cons parent outer ih =>
      refine ih ?_
      intro f hMem
      rcases List.mem_cons.mp hMem with rfl | hRest
      · exact (hFrames parent (by simp)).add
          (fun t hText =>
            (hFrames top List.mem_cons_self).close _ hText)
      · exact hFrames f (by simp [hRest])

end Locator

end ProseCheck

------------------------------------------------------------
-- Texts of a Located Tree
------------------------------------------------------------

namespace ProseCheck

/- Each text of a located tree is where a token is located. -/
theorem exists_locatedAt
    {source : Text}
    {tokens : List Token}
    {n : Node}
    (hText : n.TextOf (locate source tokens)) :
    ∃ t : Token, t.LocatedAt source tokens n := by
  let p : Node → Prop := fun n =>
    ∃ t : Token, t.LocatedAt source tokens n
  have hStart : (Locator.start source).Bears p := by
    intro f hMem
    rw [List.mem_singleton.mp hMem]
    exact ⟨nofun, nofun⟩
  have hBrings :
      Locator.Brings source p
        (Locator.leavesAll source tokens
          (Locator.start source)) :=
    fun u m hMem n _ hTop => ⟨u, m, hMem, hTop⟩
  have hEnd := Locator.consume_bears tokens hStart hBrings
  exact (Locator.closeAll_bears _ hEnd).close 0 hText

/-
  What holds of every leaf that is met, and of the node that
  is the last one in its container afterwards, holds of every
  located token.
-/
theorem forall_locatedAt
    {source : Text}
    {tokens : List Token}
    {p : Token → Node → Prop}
    (hLeaves :
      ∀ u ∈ Locator.leavesAll source tokens
          (Locator.start source),
        ∀ n ∈ (Locator.step source u.1 u.2).top.recent.head?,
          p u.1 n)
    (t : Token)
    (n : Node)
    (hLocated : t.LocatedAt source tokens n) :
    p t n := by
  rcases hLocated with ⟨l, hMem, hTop⟩
  refine hLeaves (t, l) hMem n ?_
  rw [hTop]
  rfl

end ProseCheck

import Mathlib.Data.List.Forall2
import ProseCheck.Proofs.Tree.Leaf

/-
  This file shows that a search never leaves the block that
  it is made for.  Whatever the tokens are, the search for a
  token ends where the innermost block does that is open when
  the token is met, and what it finds begins and ends in that
  block.

  Which blocks are open is told from the tokens alone: each
  opening token adds the stretch of its lines, if it has any,
  and each closing one takes the last stretch away.  A token
  that closes nothing takes nothing away, and what stands
  inside of an image takes nothing from around it.

  Main declarations:
    * `innermostBlock`
    * `scopesAfter`
    * `Meeting`
    * `meetingsAll`
    * `Locator.Scoped`
    * `Locator.step_scoped`
    * `Locator.Finds`
    * `meetings_in_block`
-/

------------------------------------------------------------
-- Tokens Inside of Tokens
------------------------------------------------------------

namespace ProseCheck

namespace Token

mutual

/- A token and all the tokens in it. -/
def preorder : Token → List Token
  | ⟨name, nesting, lines, content, markup, info, children⟩ =>
      ⟨name, nesting, lines, content, markup, info,
        children⟩ :: preorderAll children

/- Tokens and all the tokens in them. -/
def preorderAll : List Token → List Token
  | [] => []
  | t :: ts => preorder t ++ preorderAll ts

end

/- No token, and none inside of one, stands on lines. -/
def Unmapped
    (ts : List Token) : Prop :=
  ∀ t ∈ preorderAll ts, t.lines = none

/- No token inside of an image stands on lines. -/
def ImagesUnmapped
    (ts : List Token) : Prop :=
  ∀ t ∈ preorderAll ts, t.name = "image" →
    Unmapped t.children

instance
    (ts : List Token) :
    Decidable (Unmapped ts) := by
  unfold Unmapped
  infer_instance

instance
    (ts : List Token) :
    Decidable (ImagesUnmapped ts) := by
  unfold ImagesUnmapped
  infer_instance

variable
  {t : Token}
  {ts : List Token}

/- The tokens of a list are its first one and what follows. -/
theorem preorderAll_cons
    (t : Token)
    (ts : List Token) :
    preorderAll (t :: ts) =
      t :: (preorderAll t.children ++ preorderAll ts) := by
  cases t
  rw [preorderAll, preorder]
  rfl

/- All tokens are without lines where each of them is. -/
@[simp]
theorem unmapped_cons_iff :
    Unmapped (t :: ts) ↔
      t.lines = none ∧ Unmapped t.children ∧
        Unmapped ts := by
  simp only [Unmapped, preorderAll_cons, List.forall_mem_cons,
    List.forall_mem_append]

/- All images are without lines where each of them is. -/
@[simp]
theorem imagesUnmapped_cons_iff :
    ImagesUnmapped (t :: ts) ↔
      (t.name = "image" → Unmapped t.children) ∧
        ImagesUnmapped t.children ∧ ImagesUnmapped ts := by
  simp only [ImagesUnmapped, preorderAll_cons,
    List.forall_mem_cons, List.forall_mem_append]

end Token

end ProseCheck

------------------------------------------------------------
-- Scopes
------------------------------------------------------------

namespace ProseCheck

/-
  The stretches of open containers, the innermost one first.
  A container that stands on no lines has none.
-/
abbrev Scopes :=
  List (Option (Nat × Nat))

/- The stretch of the innermost block, or else the source. -/
def innermostBlock
    (source : Text)
    (scopes : Scopes) : Nat × Nat :=
  (scopes.findSome? id).getD (0, source.length)

/- Where no container stands on lines, the ones around do. -/
theorem innermostBlock_append
    (source : Text)
    {inside : Scopes}
    (hNone : ∀ s ∈ inside, s = none)
    (around : Scopes) :
    innermostBlock source (inside ++ around) =
      innermostBlock source around := by
  induction inside with
  | nil => rfl
  | cons s inside ih =>
      rcases List.forall_mem_cons.mp hNone with ⟨rfl, hRest⟩
      exact ih hRest

mutual

/- The open containers after a token, from those before it. -/
def scopesAfter
    (source : Text) : Token → Scopes → Scopes
  | ⟨name, nesting, lines, _, _, _, children⟩, scopes =>
      if nesting = 1 then
        Locator.blockSpan source lines :: scopes
      else if nesting = -1 then
        scopes.tail
      else if name = "inline" then
        scopesAfterAll source children scopes
      else
        scopes

/- The open containers after several tokens. -/
def scopesAfterAll
    (source : Text) : List Token → Scopes → Scopes
  | [], scopes => scopes
  | t :: ts, scopes =>
      scopesAfterAll source ts (scopesAfter source t scopes)

end

mutual

/- A token without lines opens no block. -/
theorem scopesAfter_unmapped
    (source : Text)
    (t : Token)
    (hLines : t.lines = none)
    (hChildren : Token.Unmapped t.children)
    {scopes : Scopes}
    (hNone : ∀ s ∈ scopes, s = none) :
    ∀ s ∈ scopesAfter source t scopes, s = none := by
  match t with
  | ⟨name, nesting, lines, _, _, _, children⟩ =>
      unfold scopesAfter
      split
      · obtain rfl : lines = none := hLines
        exact List.forall_mem_cons.mpr ⟨rfl, hNone⟩
      split
      · intro s hMem
        exact hNone s (List.mem_of_mem_tail hMem)
      split
      · exact scopesAfterAll_unmapped source children
          hChildren hNone
      · exact hNone

/- Several tokens without lines open no block. -/
theorem scopesAfterAll_unmapped
    (source : Text)
    (ts : List Token)
    (hTokens : Token.Unmapped ts)
    {scopes : Scopes}
    (hNone : ∀ s ∈ scopes, s = none) :
    ∀ s ∈ scopesAfterAll source ts scopes, s = none := by
  match ts with
  | [] =>
      unfold scopesAfterAll
      exact hNone
  | t :: ts =>
      rcases Token.unmapped_cons_iff.mp hTokens with
        ⟨hLines, hChildren, hRest⟩
      unfold scopesAfterAll
      exact scopesAfterAll_unmapped source ts hRest
        (scopesAfter_unmapped source t hLines hChildren hNone)

end

end ProseCheck

------------------------------------------------------------
-- Meetings
------------------------------------------------------------

namespace ProseCheck

/-
  A token, the state in which it is met, and the containers
  that are open then: those that a token there may close, and
  those around the image that it stands in, if any.
-/
structure Meeting where
  token : Token
  state : Locator
  inside : Scopes
  around : Scopes

namespace Meeting

variable
  (source : Text)
  (m : Meeting)

/- The state after the token. -/
def after : Locator :=
  Locator.step source m.token m.state

/- The block in which the token is met. -/
def block : Nat × Nat :=
  innermostBlock source (m.inside ++ m.around)

/- The block that is open after the token. -/
def blockAfter : Nat × Nat :=
  innermostBlock source
    (scopesAfter source m.token m.inside ++ m.around)

end Meeting

mutual

/-
  All that is met with a token: the token itself, and what
  stands inside of it.
-/
def meetings
    (source : Text)
    (around : Scopes) :
    Token → Scopes → Locator → List Meeting
  | ⟨name, nesting, lines, content, markup, info, children⟩,
      inside, l =>
      ⟨⟨name, nesting, lines, content, markup, info,
          children⟩, l, inside, around⟩ ::
        if nesting = 1 ∨ nesting = -1 then
          []
        else if name = "inline" then
          meetingsAll source around children inside l
        else if name = "image" then
          meetingsAll source (inside ++ around) children []
            { l with top := { kind := .image }, outer := [] }
        else
          []

/- All that is met with several tokens, in their order. -/
def meetingsAll
    (source : Text)
    (around : Scopes) :
    List Token → Scopes → Locator → List Meeting
  | [], _, _ => []
  | t :: ts, inside, l =>
      meetings source around t inside l ++
        meetingsAll source around ts
          (scopesAfter source t inside)
          (Locator.step source t l)

end

/- All that is met with the tokens of a source. -/
def allMeetings
    (source : Text)
    (tokens : List Token) : List Meeting :=
  meetingsAll source [] tokens [] (Locator.start source)

end ProseCheck

------------------------------------------------------------
-- Scoped Locators
------------------------------------------------------------

namespace ProseCheck

/- A frame knows where it starts and stops as its scope does. -/
def Frame.HasScope
    (f : Frame)
    (scope : Option (Nat × Nat)) : Prop :=
  f.start = scope.map Prod.fst ∧ f.stop = scope.map Prod.snd

/-
  What may be met with open containers: inside of an image
  nothing stands on lines, and neither do the containers.
-/
def Admits
    (inside around : Scopes)
    (ts : List Token) : Prop :=
  (around = [] ∧ Token.ImagesUnmapped ts) ∨
    ((∀ s ∈ inside, s = none) ∧ Token.Unmapped ts)

namespace Locator

/-
  A locator that knows the open containers.  Its search ends
  where the innermost block does, and goes on from where all
  the blocks have begun.  The outermost of its frames is that
  of the source, or of the image around it.
-/
structure Scoped
    (source : Text)
    (inside around : Scopes)
    (l : Locator) : Prop where
  sound : ∃ base, l.Sound source base
  limit_eq :
    l.limit = (innermostBlock source (inside ++ around)).2
  begun :
    ∀ p, some p ∈ inside ++ around → p.1 ≤ l.cursor
  frames :
    ∃ outermost,
      (outermost = none ∨
        outermost = some (0, source.length)) ∧
      List.Forall₂ Frame.HasScope (l.top :: l.outer)
        (inside ++ [outermost])

end Locator

end ProseCheck

------------------------------------------------------------
-- Leaves
------------------------------------------------------------

namespace ProseCheck

namespace Locator

/-
  From one state to another, nothing is found, or one node
  is, between the cursor and the limit.  The search goes on
  behind it.
-/
def Finds
    (l next : Locator) : Prop :=
  next = l ∨
    ∃ (n : Node) (stop : Nat),
      next = { l with cursor := stop }.addNode n ∧
        l.cursor ≤ n.start ∧ n.start ≤ n.stop ∧
        n.stop = stop ∧ stop ≤ l.limit

/- What is written in a block is found in it. -/
theorem written_finds
    (source : Text)
    (kind : NodeKind)
    (needle content : Text)
    {skip : Nat}
    (hSkip : skip ≤ needle.length)
    (l : Locator) :
    l.Finds (l.written source kind needle content skip) := by
  unfold written
  split
  · exact Or.inl rfl
  · rename_i index hFind
    unfold find? at hFind
    split at hFind
    · cases hFind
    · rename_i hEmpty
      have hBounds := Text.findIn?_bounds
        (fun hNone => hEmpty (List.isEmpty_iff.mpr hNone))
        hFind
      refine Or.inr ⟨_, _, rfl, ?_, ?_, rfl, hBounds.2.1⟩
      · dsimp only
        omega
      · dsimp only
        omega

/- A special character is found in its block. -/
theorem special_finds
    (source content markup : Text)
    (info : String)
    (l : Locator) :
    l.Finds (l.special source content markup info) := by
  unfold special
  split
  · rename_i hEscape
    apply written_finds
    cases markup with
    | nil => simp at hEscape
    | cons c cs => simp
  · exact written_finds source _ _ _ (Nat.zero_le _) l

/- A run of marks that is found ends before the limit. -/
theorem findRun?_le_limit
    {source run : Text}
    {start limit i : Nat}
    (hFound : findRun? source run start limit = some i) :
    start ≤ i ∧ i + run.length ≤ limit := by
  have hBounds := runFrom_bounds hFound
  rw [Text.length_slice] at hBounds
  omega

/- Code is found in its block. -/
theorem codeSpan_finds
    (source markup : Text)
    (l : Locator) :
    l.Finds (l.codeSpan source markup) := by
  rw [codeSpan]
  generalize (if markup.isEmpty then [codeMark]
    else markup) = run
  split
  · exact Or.inl rfl
  · rename_i start hStart
    dsimp only
    split
    · exact Or.inl rfl
    · rename_i closing hClosing
      have hFirst := findRun?_le_limit hStart
      have hLast := findRun?_le_limit hClosing
      refine Or.inr ⟨_, _, rfl, ?_, ?_, rfl, hLast.2⟩
      · dsimp only
        omega
      · dsimp only
        omega

end Locator

/-
  A leaf inside of a line that is searched for: a text, a
  special character, code, or a tag.
-/
def Token.IsInlineLeaf
    (t : Token) : Prop :=
  ¬ (t.nesting = 1 ∨ t.nesting = -1) ∧
    t.name ∈
      ["text", "text_special", "code_inline", "html_inline"]

instance
    (t : Token) :
    Decidable t.IsInlineLeaf := by
  unfold Token.IsInlineLeaf
  infer_instance

namespace Locator

/- What is searched for inside of a line is found in there. -/
theorem step_finds
    (source : Text)
    {t : Token}
    (hLeaf : t.IsInlineLeaf)
    (l : Locator) :
    l.Finds (step source t l) := by
  rcases hLeaf with ⟨hNesting, hName⟩
  have hLeaf :
      step source t l =
        l.leaf source t.name t.lines t.content t.markup
          t.info :=
    step_of_leaf source hNesting
      (ne_of_mem_of_not_mem hName (by decide))
      (ne_of_mem_of_not_mem hName (by decide)) l
  simp only [List.mem_cons, List.not_mem_nil, or_false]
    at hName
  rw [hLeaf, leaf]
  rcases hName with hName | hName | hName | hName
  · rw [hName]
    exact written_finds source _ _ _ (Nat.zero_le _) l
  · rw [hName]
    exact special_finds source t.content t.markup t.info l
  · rw [hName]
    exact codeSpan_finds source t.markup l
  · rw [hName]
    exact written_finds source _ _ _ (Nat.zero_le _) l

/-
  From one state to another, the search goes forward, and the
  open containers stay as they are, but for their children.
-/
structure Advances
    (l next : Locator) : Prop where
  limit_eq : next.limit = l.limit
  cursor_le : l.cursor ≤ next.cursor
  outer_eq : next.outer = l.outer
  start_eq : next.top.start = l.top.start
  stop_eq : next.top.stop = l.top.stop

/- A search goes forward if nothing happens at all. -/
theorem Advances.refl
    (l : Locator) :
    l.Advances l :=
  ⟨rfl, Nat.le_refl _, rfl, rfl, rfl⟩

/- A search goes forward with a node that is found. -/
theorem Advances.addNode
    {l : Locator}
    {cursor : Nat}
    (hForward : l.cursor ≤ cursor)
    (n : Node) :
    l.Advances ({ l with cursor := cursor }.addNode n) :=
  ⟨rfl, hForward, rfl, rfl, rfl⟩

/- A search goes forward, whatever it finds. -/
theorem Finds.advances
    {l next : Locator}
    (hFinds : l.Finds next) :
    l.Advances next := by
  rcases hFinds with rfl |
    ⟨n, stop, rfl, hStart, hOrder, hStop, _⟩
  · exact Advances.refl _
  · exact Advances.addNode (by omega) n

/- A search goes forward with every leaf. -/
theorem leaf_advances
    (source : Text)
    (t : Token)
    (l : Locator) :
    l.Advances
      (l.leaf source t.name t.lines t.content t.markup
        t.info) := by
  unfold leaf
  split
  · unfold leafBlock
    split
    · exact Advances.refl l
    · exact Advances.addNode (Nat.le_max_left _ _) _
  split
  · exact (written_finds source _ _ _
      (Nat.zero_le _) l).advances
  split
  · exact (special_finds source _ _ _ l).advances
  split
  · exact (codeSpan_finds source _ l).advances
  split
  · exact (written_finds source _ _ _
      (Nat.zero_le _) l).advances
  · exact Advances.refl l

end Locator

end ProseCheck

------------------------------------------------------------
-- Steps
------------------------------------------------------------

namespace ProseCheck

namespace Locator

variable
  {source : Text}
  {inside around : Scopes}
  {l next : Locator}

/- Only where frames start and stop tells their scopes. -/
theorem hasScope_of_top
    {f g : Frame}
    {outer : List Frame}
    {scopes : Scopes}
    (hFrames :
      List.Forall₂ Frame.HasScope (f :: outer) scopes)
    (hStart : g.start = f.start)
    (hStop : g.stop = f.stop) :
    List.Forall₂ Frame.HasScope (g :: outer) scopes := by
  cases hFrames with
  | cons hTop hOuter =>
      exact .cons
        ⟨hStart.trans hTop.1, hStop.trans hTop.2⟩ hOuter

/- The open containers are known while the search goes on. -/
theorem Scoped.advance
    (hScoped : l.Scoped source inside around)
    (hAdvances : l.Advances next)
    (hSound : ∃ base, next.Sound source base) :
    next.Scoped source inside around := by
  rcases hScoped.frames with
    ⟨outermost, hOutermost, hFrames⟩
  refine ⟨hSound, ?_, ?_, outermost, hOutermost, ?_⟩
  · rw [hAdvances.limit_eq, hScoped.limit_eq]
  · intro p hMem
    exact Nat.le_trans (hScoped.begun p hMem)
      hAdvances.cursor_le
  · rw [hAdvances.outer_eq]
    exact hasScope_of_top hFrames hAdvances.start_eq
      hAdvances.stop_eq

/- The frames end where the innermost block does. -/
theorem blockLimit_of_frames
    {frames : List Frame}
    {outermost : Option (Nat × Nat)}
    (hOutermost :
      outermost = none ∨ outermost = some (0, source.length))
    (hFrames :
      List.Forall₂ Frame.HasScope frames
        (inside ++ [outermost])) :
    blockLimit source frames =
      (innermostBlock source inside).2 := by
  induction inside generalizing frames with
  | nil =>
      rcases List.forall₂_cons_right_iff.mp hFrames with
        ⟨f, rest, hScope, hRest, rfl⟩
      rw [List.forall₂_nil_right_iff.mp hRest, blockLimit,
        List.findSome?_cons, hScope.2]
      rcases hOutermost with rfl | rfl <;> rfl
  | cons s inside ih =>
      rcases List.forall₂_cons_right_iff.mp hFrames with
        ⟨f, rest, hScope, hRest, rfl⟩
      rw [blockLimit, List.findSome?_cons, hScope.2]
      cases s with
      | none => exact ih hRest
      | some stretch => rfl

/- A container that is opened is known. -/
theorem Scoped.openFrame
    (hScoped : l.Scoped source inside around)
    (name : String)
    (lines : Option (Int × Int))
    (markup : Text) :
    (l.openFrame source name lines markup).Scoped source
      (blockSpan source lines :: inside) around := by
  rcases hScoped.sound with ⟨base, hSound⟩
  rcases hScoped.frames with
    ⟨outermost, hOutermost, hFrames⟩
  have hOpened :=
    hSound.openFrame name lines markup
  unfold Locator.openFrame at hOpened ⊢
  cases hSpan : blockSpan source lines with
  | none =>
      rw [hSpan] at hOpened
      refine ⟨⟨base, hOpened⟩, hScoped.limit_eq, ?_,
        outermost, hOutermost, .cons ⟨rfl, rfl⟩ hFrames⟩
      intro p hMem
      exact hScoped.begun p (by simpa using hMem)
  | some stretch =>
      rw [hSpan] at hOpened
      refine ⟨⟨base, hOpened⟩, rfl, ?_,
        outermost, hOutermost, .cons ⟨rfl, rfl⟩ hFrames⟩
      intro p hMem
      rcases List.mem_cons.mp hMem with hSame | hOther
      · cases hSame
        exact Nat.le_max_right _ _
      · exact Nat.le_trans (hScoped.begun p hOther)
          (Nat.le_max_left _ _)

/- The end of a link is skipped while the search goes on. -/
theorem finish_advances
    (hSound : ∃ base, l.Sound source base) :
    (l.finish source).limit = l.limit ∧
      l.cursor ≤ (l.finish source).cursor ∧
      (l.finish source).top.start = l.top.start := by
  rcases hSound with ⟨base, hSound⟩
  unfold finish
  split
  · have hTail := skipLinkTail_bounds l.limit
      (l.top.markup == "autolink".toList) hSound.cursor_le
    exact ⟨rfl, hTail.1, rfl⟩
  · exact ⟨rfl, Nat.le_refl _, rfl⟩

/- A container that is closed is known no more. -/
theorem Scoped.closeFrame
    (hScoped : l.Scoped source inside around)
    (hWhere : around = [] ∨ ∀ s ∈ inside, s = none) :
    (l.closeFrame source).Scoped source inside.tail
      around := by
  rcases hScoped.sound with ⟨base, hSound⟩
  rcases hScoped.frames with
    ⟨outermost, hOutermost, hFrames⟩
  have hClosed := hSound.closeFrame
  rw [Locator.closeFrame] at hClosed ⊢
  cases inside with
  -- there is nothing to close but the outermost frame
  | nil =>
      have hOuter : l.outer = [] := by
        rcases List.forall₂_cons.mp hFrames with ⟨_, hRest⟩
        exact List.forall₂_nil_right_iff.mp hRest
      rw [hOuter]
      exact hScoped
  | cons s inside =>
      rcases List.forall₂_cons.mp hFrames with
        ⟨hTop, hRest⟩
      cases hOuter : l.outer with
      | nil =>
          rw [hOuter] at hRest
          simp at hRest
      | cons parent outer =>
          rw [hOuter] at hClosed hRest
          have hFinish := finish_advances ⟨base, hSound⟩
          refine ⟨⟨base, hClosed⟩, ?_, ?_, outermost,
            hOutermost, hasScope_of_top hRest rfl rfl⟩
          · dsimp only
            rw [hFinish.2.2, hTop.1, hFinish.1,
              hScoped.limit_eq]
            cases s with
            | none => rfl
            | some stretch =>
                -- a block is closed, so not in an image
                rcases hWhere with rfl | hNone
                · simp [blockLimit_of_frames hOutermost hRest]
                · exact absurd (hNone _ List.mem_cons_self)
                    (by simp)
          · intro p hMem
            have hBegun :=
              hScoped.begun p (List.mem_cons_of_mem _ hMem)
            exact Nat.le_trans hBegun
              (Nat.le_trans hFinish.2.1 (Nat.le_max_left _ _))

end Locator

end ProseCheck

------------------------------------------------------------
-- Token Streams
------------------------------------------------------------

namespace ProseCheck

namespace Admits

variable
  {inside around : Scopes}
  {t : Token}
  {ts : List Token}

/- Around an image blocks may be open, but not in one. -/
theorem outside_or_none
    (hAdmits : Admits inside around ts) :
    around = [] ∨ ∀ s ∈ inside, s = none := by
  rcases hAdmits with ⟨hAround, _⟩ | ⟨hNone, _⟩
  · exact Or.inl hAround
  · exact Or.inr hNone

/- What stands inside of an admitted token is admitted. -/
theorem children
    (hAdmits : Admits inside around (t :: ts)) :
    Admits inside around t.children := by
  rcases hAdmits with ⟨hAround, hImages⟩ | ⟨hNone, hLines⟩
  · rw [Token.imagesUnmapped_cons_iff] at hImages
    exact Or.inl ⟨hAround, hImages.2.1⟩
  · rw [Token.unmapped_cons_iff] at hLines
    exact Or.inr ⟨hNone, hLines.2.1⟩

/- What stands inside of an admitted image has no lines. -/
theorem unmapped_of_image
    (hAdmits : Admits inside around (t :: ts))
    (hImage : t.name = "image") :
    Token.Unmapped t.children := by
  rcases hAdmits with ⟨_, hImages⟩ | ⟨_, hLines⟩
  · rw [Token.imagesUnmapped_cons_iff] at hImages
    exact hImages.1 hImage
  · rw [Token.unmapped_cons_iff] at hLines
    exact hLines.2.1

/- What follows is admitted after an admitted token. -/
theorem tail
    (source : Text)
    (hAdmits : Admits inside around (t :: ts)) :
    Admits (scopesAfter source t inside) around ts := by
  rcases hAdmits with ⟨hAround, hImages⟩ | ⟨hNone, hLines⟩
  · rw [Token.imagesUnmapped_cons_iff] at hImages
    exact Or.inl ⟨hAround, hImages.2.2⟩
  · rw [Token.unmapped_cons_iff] at hLines
    rcases hLines with ⟨hHere, hChildren, hRest⟩
    exact Or.inr
      ⟨scopesAfter_unmapped source t hHere hChildren hNone,
        hRest⟩

end Admits

namespace Locator

variable
  {source : Text}

/- The stack inside of an image goes on from the cursor. -/
theorem Sound.enterImage
    {base : Nat}
    {l : Locator}
    (hSound : l.Sound source base) :
    { l with top := { kind := .image }, outer := [] }.Sound
      source l.cursor := by
  refine ⟨hSound.cursor_le, l.cursor, ?_, Nat.le_refl _⟩
  exact ⟨by simp, by simp, by simp, Int.le_refl _⟩

/- Inside of an image the search goes on as around it. -/
theorem Scoped.enterImage
    {inside around : Scopes}
    {l : Locator}
    (hScoped : l.Scoped source inside around) :
    { l with top := { kind := .image }, outer := [] }.Scoped
      source [] (inside ++ around) := by
  rcases hScoped.sound with ⟨base, hSound⟩
  exact ⟨⟨l.cursor, hSound.enterImage⟩, hScoped.limit_eq,
    hScoped.begun, none, Or.inl rfl, .cons ⟨rfl, rfl⟩ .nil⟩

/-
  An image that is closed leaves the search where it was, but
  for the characters behind which it goes on.
-/
theorem closeImage_advances
    {l inner : Locator}
    (frame : Frame)
    (hSound : inner.Sound source l.cursor)
    (hLimit : inner.limit = l.limit) :
    l.Advances
      (closeImage source frame
        { inner with top := l.top, outer := l.outer }) := by
  have hTail := skipLinkTail_bounds inner.limit false
    hSound.cursor_le
  have hForward := hSound.stacked.le
  rw [closeImage]
  exact ⟨hLimit, Nat.le_trans hForward hTail.1, rfl, rfl,
    rfl⟩

mutual

/- The open containers are known after every token. -/
theorem step_scoped
    {inside around : Scopes}
    (t : Token)
    {ts : List Token}
    (hAdmits : Admits inside around (t :: ts))
    {l : Locator}
    (hScoped : l.Scoped source inside around) :
    (step source t l).Scoped source
      (scopesAfter source t inside) around := by
  rcases hScoped.sound with ⟨base, hSound⟩
  have hNext := step_sound t hSound
  match t with
  | ⟨name, nesting, lines, content, markup, info,
      children⟩ =>
      have hChildren := hAdmits.children
      unfold scopesAfter
      unfold step at hNext ⊢
      split
      · exact hScoped.openFrame name lines markup
      split
      · exact hScoped.closeFrame hAdmits.outside_or_none
      rename_i hOpen hClose
      rw [if_neg hOpen, if_neg hClose] at hNext
      split
      · exact consume_scoped children hChildren hScoped
      split
      · rename_i hInline hImage
        rw [if_neg hInline, if_pos hImage] at hNext
        have hPlain := hAdmits.unmapped_of_image hImage
        have hEntered := hScoped.enterImage
        have hInside := consume_scoped children
          (Or.inr ⟨by simp, hPlain⟩) hEntered
        refine hScoped.advance
          (closeImage_advances _ ?_ ?_) ⟨base, hNext⟩
        · exact consume_sound children hSound.enterImage
        · rw [hInside.limit_eq, innermostBlock_append source
            (scopesAfterAll_unmapped source children hPlain
              (by simp)), hScoped.limit_eq]
      · rename_i hInline hImage
        rw [if_neg hInline, if_neg hImage] at hNext
        exact hScoped.advance
          (leaf_advances source
            ⟨name, nesting, lines, content, markup, info,
              children⟩ l) ⟨base, hNext⟩

/- The open containers are known after several tokens. -/
theorem consume_scoped
    {inside around : Scopes}
    (ts : List Token)
    (hAdmits : Admits inside around ts)
    {l : Locator}
    (hScoped : l.Scoped source inside around) :
    (consume source ts l).Scoped source
      (scopesAfterAll source ts inside) around := by
  match ts with
  | [] =>
      unfold consume scopesAfterAll
      exact hScoped
  | t :: ts =>
      unfold consume scopesAfterAll
      exact consume_scoped ts (hAdmits.tail source)
        (step_scoped t hAdmits hScoped)

end

end Locator

end ProseCheck

------------------------------------------------------------
-- Searches in Blocks
------------------------------------------------------------

namespace ProseCheck

variable
  {source : Text}

mutual

/- The open containers are known when a token is met. -/
theorem scoped_of_mem_meetings
    {inside around : Scopes}
    (t : Token)
    {ts : List Token}
    (hAdmits : Admits inside around (t :: ts))
    {l : Locator}
    (hScoped : l.Scoped source inside around)
    {m : Meeting}
    (hMem : m ∈ meetings source around t inside l) :
    m.state.Scoped source m.inside m.around ∧
      ∃ after, Admits m.inside m.around
        (m.token :: after) := by
  match t with
  | ⟨name, nesting, lines, content, markup, info,
      children⟩ =>
      have hChildren := hAdmits.children
      unfold meetings at hMem
      rcases List.mem_cons.mp hMem with rfl | hInner
      · exact ⟨hScoped, ts, hAdmits⟩
      split at hInner
      · cases hInner
      split at hInner
      · exact scoped_of_mem_meetingsAll children hChildren
          hScoped hInner
      split at hInner
      · rename_i hImage
        have hPlain := hAdmits.unmapped_of_image hImage
        exact scoped_of_mem_meetingsAll children
          (Or.inr ⟨by simp, hPlain⟩) hScoped.enterImage hInner
      · cases hInner

/- The same is so when several tokens are met. -/
theorem scoped_of_mem_meetingsAll
    {inside around : Scopes}
    (ts : List Token)
    (hAdmits : Admits inside around ts)
    {l : Locator}
    (hScoped : l.Scoped source inside around)
    {m : Meeting}
    (hMem : m ∈ meetingsAll source around ts inside l) :
    m.state.Scoped source m.inside m.around ∧
      ∃ after, Admits m.inside m.around
        (m.token :: after) := by
  match ts with
  | [] =>
      unfold meetingsAll at hMem
      cases hMem
  | t :: ts =>
      unfold meetingsAll at hMem
      rcases List.mem_append.mp hMem with hFirst | hLater
      · exact scoped_of_mem_meetings t hAdmits hScoped hFirst
      · exact scoped_of_mem_meetingsAll ts
          (hAdmits.tail source)
          (Locator.step_scoped t hAdmits hScoped) hLater

end

/- The source is all that is open before the first token. -/
theorem Locator.scoped_start
    (source : Text) :
    (start source).Scoped source [] [] := by
  refine ⟨⟨0, sound_start source⟩, rfl, by simp,
    some (0, source.length), Or.inr rfl, ?_⟩
  exact .cons ⟨rfl, rfl⟩ .nil

/- The search goes on in the block that is innermost. -/
theorem Locator.Scoped.begun_block
    {inside around : Scopes}
    {l : Locator}
    (hScoped : l.Scoped source inside around) :
    (innermostBlock source (inside ++ around)).1 ≤
      l.cursor := by
  rw [innermostBlock]
  cases hFound : (inside ++ around).findSome? id with
  | none => exact Nat.zero_le _
  | some p =>
      rcases List.exists_of_findSome?_eq_some hFound with
        ⟨s, hMem, rfl⟩
      exact hScoped.begun p hMem

/-
  Whatever the tokens are, if none inside of an image stands
  on lines: after every token the search ends where the
  innermost block does that is open, and every leaf in a line
  that is found begins and ends in the innermost block that
  is open when it is met.
-/
theorem meetings_in_block
    (source : Text)
    (tokens : List Token)
    (hImages : Token.ImagesUnmapped tokens) :
    ∀ m ∈ allMeetings source tokens,
      (m.after source).limit = (m.blockAfter source).2 ∧
        (m.token.IsInlineLeaf →
          ∀ n, (m.after source).top = m.state.top.add n →
            (m.block source).1 ≤ n.start ∧
              n.start ≤ n.stop ∧
              n.stop ≤ (m.block source).2) := by
  intro m hMem
  rcases scoped_of_mem_meetingsAll tokens
      (Or.inl ⟨rfl, hImages⟩) (Locator.scoped_start source)
      hMem with
    ⟨hScoped, ts, hAdmits⟩
  refine ⟨(Locator.step_scoped m.token hAdmits
    hScoped).limit_eq, ?_⟩
  intro hLeaf n hTop
  have hBegun := hScoped.begun_block
  have hLimit := hScoped.limit_eq
  rw [Meeting.after] at hTop
  rcases Locator.step_finds source hLeaf m.state with
    hNone | ⟨found, stop, hNext, hStart, hOrder, hStop, hEnd⟩
  · rw [hNone] at hTop
    exact absurd hTop.symm (m.state.top.add_ne n)
  · rw [hNext] at hTop
    obtain rfl : found = n := Frame.add_inj hTop
    rw [Meeting.block]
    omega

/-
  A stray closer, an image, a link, and a text of the second
  block that is looked for in the first one.  The second one
  is left open.
-/
theorem meetings_in_block_mixed :
    let source : Text := "a ![b](c) [d](e)\n\nz".toList
    let tokens : List Token :=
      [{ name := "paragraph_close", nesting := -1 },
        { name := "paragraph_open", nesting := 1,
          lines := some (0, 1) },
        { name := "inline", children :=
            [.text ['a', ' '],
              { name := "image", children := [.text ['b']] },
              { name := "link_open", nesting := 1 },
              .text ['d'],
              { name := "link_close", nesting := -1 },
              .text ['z']] },
        { name := "paragraph_close", nesting := -1 },
        { name := "paragraph_open", nesting := 1,
          lines := some (2, 3) },
        { name := "inline", children := [.text ['z']] }]
    let found (m : Meeting) : Bool :=
      m.token.name == "text" &&
        (m.after source).cursor != m.state.cursor
    (∀ m ∈ allMeetings source tokens,
      (m.after source).limit = (m.blockAfter source).2 ∧
        (m.token.IsInlineLeaf →
          ∀ n, (m.after source).top = m.state.top.add n →
            (m.block source).1 ≤ n.start ∧
              n.start ≤ n.stop ∧
              n.stop ≤ (m.block source).2)) ∧
      ((allMeetings source tokens).filter found).map
          (fun m =>
            (m.token.content, m.block source,
              (m.after source).cursor)) =
        [(['a', ' '], (0, 16), 2), (['b'], (0, 16), 5),
          (['d'], (0, 16), 12), (['z'], (18, 19), 19)] := by
  intro source tokens found
  exact ⟨meetings_in_block source tokens (by decide),
    by decide +kernel⟩

end ProseCheck

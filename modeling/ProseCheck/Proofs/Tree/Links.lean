import ProseCheck.Proofs.Tree.Leaf
import ProseCheck.Proofs.Tree.LinkTail

/-
  This file locates a link in a line, between a text before
  it and a text behind it.  The text of the link stands
  behind its bracket, and what follows is searched for behind
  the end of the link.

  Where the link has a target in parentheses, the text behind
  it is found right behind the closing one, whatever address
  and title say.  Where the link has none, the text behind it
  is lost if its own parentheses are taken for a target.

  Main declarations:
    * `Locator.consume_link`
    * `Locator.consume_linkFront`
    * `Token.linkLine`
    * `locate_linkLine`
    * `annotate_linkLine`
    * `annotate_targetLink`
    * `annotate_shortcutLink_iff`
-/

------------------------------------------------------------
-- Texts and Links
------------------------------------------------------------

namespace ProseCheck

/- The token of a text, if there is any text. -/
def Token.texts
    (content : Text) : List Token :=
  if content = [] then [] else [text content]

/- The node of a text, if there is any text. -/
def Node.literals
    (content : Text)
    (start : Nat) : List Node :=
  if content = [] then [] else [literal content start]

/- There is one such node at most. -/
@[simp]
theorem Node.reverse_literals
    (content : Text)
    (start : Nat) :
    (literals content start).reverse =
      literals content start := by
  unfold literals
  split <;> rfl

/- It says what the text says. -/
theorem Node.flatMap_literals
    (content : Text)
    (start : Nat) :
    (literals content start).flatMap (·.content) =
      content := by
  unfold literals literal
  split <;> simp_all

/- The tokens of a link around a text. -/
def Token.link
    (label : Text) : List Token :=
  [{ name := "link_open", nesting := 1 }, text label,
    { name := "link_close", nesting := -1 }]

namespace Locator

variable
  {source content rest : Text}
  {l : Locator}

/- A text that comes next is found at the cursor. -/
theorem consume_texts
    (hRemains :
      source.Remains (content ++ rest) l.cursor l.limit) :
    consume source (Token.texts content) l =
      { l with
        cursor := l.cursor + content.length,
        top := { l.top with
          recent :=
            Node.literals content l.cursor ++ l.top.recent } } := by
  unfold Token.texts Node.literals
  by_cases hEmpty : content = []
  · simp [hEmpty, consume]
  · rw [if_neg hEmpty, if_neg hEmpty, consume, consume,
      step_text_of_find hEmpty hRemains.findIn?_append]
    rfl

/-
  A link becomes a node around its text, from the text to the
  end of the link, and the search goes on from there.
-/
theorem consume_link
    (hSome : content ≠ [])
    {i past : Nat}
    (hFound :
      source.findIn? content l.cursor l.limit = some i)
    (hPast :
      skipLinkTail source l.limit (i + content.length) false =
        past)
    (hOrder : i ≤ past) :
    consume source (Token.link content) l =
      { l with
        cursor := past,
        top := l.top.add
          ⟨.link, i, past, [], [.literal content i]⟩ } := by
  have hOpen :
      step source { name := "link_open", nesting := 1 } l =
        { l with
          top := { kind := .link }, outer := l.top :: l.outer } :=
    rfl
  have hText :
      step source (Token.text content)
          { l with
            top := { kind := .link },
            outer := l.top :: l.outer } =
        { l with
          cursor := i + content.length,
          top :=
            { kind := .link, recent := [.literal content i] },
          outer := l.top :: l.outer } :=
    step_text_of_find hSome hFound
  have hMark : (([] : Text) == "autolink".toList) = false :=
    rfl
  have hMax : max (i : Int) past = past :=
    max_eq_right (Int.ofNat_le.mpr hOrder)
  -- the end of the link is skipped before the frame closes
  rw [Token.link, consume, hOpen, consume, hText, consume,
    consume, step, if_neg (by decide), if_pos rfl, closeFrame]
  dsimp only
  rw [finish, if_pos rfl]
  dsimp only
  rw [hMark, hPast]
  simp [Frame.close, Frame.add, Node.literal, hMax]

variable {before label : Text}

/-
  Where a text and a link come next, both are found, the text
  of the link behind its bracket.  The search goes on in what
  is left behind the end of the link.
-/
theorem consume_linkFront
    (hLabel : label ≠ [])
    (hOpen : '[' ∉ label)
    (hRemains :
      source.Remains
        (before ++ '[' :: (label ++ ']' :: rest)) l.cursor
        l.limit) :
    let start := l.cursor + before.length + 1
    ∃ past,
      source.Remains (behindLink rest) past l.limit ∧
        consume source (Token.texts before ++ Token.link label)
            l =
          { l with
            cursor := past,
            top := { l.top with
              recent :=
                ⟨.link, start, past, [],
                  [.literal label start]⟩ ::
                    (Node.literals before l.cursor ++
                      l.top.recent) } } := by
  intro start
  have hBracket := hRemains.behind
  have hCloser := hBracket.tail.behind
  have hTail := remains_skipLinkTail hCloser
  -- no text without a bracket begins at the bracket
  have hFound :
      source.findIn? label (l.cursor + before.length)
          l.limit =
        some start := by
    rw [hBracket.findIn?_eq,
      Text.find?_cons_append hLabel hOpen, Option.map_some,
      Nat.add_comm]
  generalize hPast :
    skipLinkTail source l.limit (start + label.length) false =
      past at hTail
  have hOrder : start ≤ past := by
    have hLess := length_behindLink_le rest
    have hMore := hCloser.length_eq
    have hLeft := hTail.length_eq
    rw [List.length_cons] at hMore
    omega
  refine ⟨past, hTail, ?_⟩
  rw [consume_append, consume_texts hRemains]
  exact consume_link hLabel hFound hPast hOrder

end Locator

end ProseCheck

------------------------------------------------------------
-- A Link in a Line
------------------------------------------------------------

namespace ProseCheck

/-
  The tokens of a line with a link, between a text before it,
  if any, and a text behind it.
-/
def Token.linkLine
    (before label after : Text) : List Token :=
  paragraph ((texts before ++ link label) ++ [text after])

/-
  The nodes of such a line, where the link ends at an offset,
  and the text behind it may have been found.
-/
def Node.linkLine
    (before label after : Text)
    (past : Nat)
    (found : Option Nat) : List Node :=
  literals before 0 ++
    (⟨.link, (before.length + 1 : Nat), past, [],
      [literal label (before.length + 1)]⟩ ::
        found.toList.map (literal after))

variable {before label rest after : Text}

/-
  In a line with a link, the text of the link is found behind
  its bracket.  The text behind the link is searched for in
  what is left behind the end of the link.
-/
theorem locate_linkLine
    (hLabel : label ≠ [])
    (hAfter : after ≠ [])
    (hOpen : '[' ∉ label)
    {source : Text}
    (hSource :
      source = before ++ '[' :: (label ++ ']' :: rest))
    (hLine : source.IsLine) :
    ∃ past,
      source.Remains (Locator.behindLink rest) past
          source.length ∧
        locate source (Token.linkLine before label after) =
          ⟨.document, 0, source.length, [],
            [⟨.paragraph, 0, source.length, [],
              Node.linkLine before label after past
                (source.findIn? after past
                  source.length)⟩]⟩ := by
  have hRemains :
      source.Remains
        (before ++ '[' :: (label ++ ']' :: rest)) 0
        source.length := by
    rw [← hSource]
    exact Text.remains_append [] source
  let inside : Locator :=
    ⟨0, source.length, .whole source .paragraph [],
      [.whole source .document []]⟩
  rcases Locator.consume_linkFront (l := inside) hLabel hOpen
    hRemains with ⟨past, hTail, hFront⟩
  refine ⟨past, hTail, ?_⟩
  have hPast : past ≤ source.length :=
    Nat.le_of_add_right_le (Nat.le_of_eq hTail.length_eq)
  generalize hFind :
    source.findIn? after past source.length = found
  have hLast :
      found.elim past (· + after.length) ≤ source.length := by
    cases found with
    | none => exact hPast
    | some i => exact (Text.findIn?_bounds hAfter hFind).2.2
  have hInside :
      Locator.consume source
          ((Token.texts before ++ Token.link label) ++
            [Token.text after]) inside =
        ⟨found.elim past (· + after.length), source.length,
          .whole source .paragraph
            (Node.linkLine before label after past
              found).reverse,
          [.whole source .document []]⟩ := by
    rw [Locator.consume_append, hFront, Locator.consume,
      Locator.consume, Locator.step_text source hAfter]
    dsimp only [inside]
    rw [hFind]
    cases found with
    | none => simp [Node.linkLine, Frame.whole]
    | some i => simp [Node.linkLine, Frame.whole]
  rw [Token.linkLine, locate_line
    (Locator.consume_paragraph hLine hInside hLast)]
  simp

end ProseCheck

------------------------------------------------------------
-- Reading a Line with a Link
------------------------------------------------------------

namespace ProseCheck

namespace Node

variable
  (before label after : Text)
  (past : Nat)
  (found : Option Nat)

/- The texts of a line with a link are those that are found. -/
theorem textsAll_linkLine :
    textsAll (linkLine before label after past found) =
      literals before 0 ++
        literal label (before.length + 1) ::
          found.toList.map (literal after) := by
  unfold linkLine literals literal
  cases found <;> split <;> rfl

/- There are no paragraphs among the nodes of such a line. -/
theorem paragraphsAll_linkLine :
    paragraphsAll (linkLine before label after past found) =
      [] := by
  unfold linkLine literals literal
  cases found <;> split <;> rfl

end Node

variable {before label rest after : Text}

/-
  A line with a link is read as the text before the link, the
  text of the link, and the text behind it if that is found
  in what is left behind the end of the link.
-/
theorem annotate_linkLine
    (hLabel : label ≠ [])
    (hAfter : after ≠ [])
    (hOpen : '[' ∉ label)
    {source : Text}
    (hSource :
      source = before ++ '[' :: (label ++ ']' :: rest))
    (hLine : source.IsLine) :
    ∃ past,
      source.Remains (Locator.behindLink rest) past
          source.length ∧
        let root := locate source
          (Token.linkLine before label after)
        let found := source.findIn? after past source.length
        root.texts =
            Node.literals before 0 ++
              Node.literal label (before.length + 1) ::
                found.toList.map (Node.literal after) ∧
          ∃ a, annotate source root = .ok a ∧
            a.plainText =
              before ++ (label ++
                found.toList.flatMap (fun _ => after)) := by
  rcases locate_linkLine hLabel hAfter hOpen hSource hLine
    with ⟨past, hTail, hRoot⟩
  refine ⟨past, hTail, ?_⟩
  dsimp only
  have hTexts :
      (locate source
          (Token.linkLine before label after)).texts =
        Node.literals before 0 ++
          Node.literal label (before.length + 1) ::
            (source.findIn? after past
              source.length).toList.map
                (Node.literal after) := by
    rw [hRoot, Node.texts_of_ne (by simp)]
    rw [Node.textsAll_cons, Node.texts_of_ne (by simp),
      Node.textsAll_linkLine]
    exact List.append_nil _
  have hFlat :
      ¬ (locate source (Token.linkLine before label
        after)).NestsParagraphs := by
    rw [Node.nestsParagraphs_iff_paragraphs, hRoot,
      Node.paragraphs_of_ne (by simp),
      Node.paragraphsAll_cons,
      Node.paragraphs_of_paragraph rfl,
      Node.paragraphsAll_linkLine]
    rintro ⟨p, hMem, hSome⟩
    obtain rfl := List.mem_singleton.mp hMem
    exact hSome (Node.paragraphsAll_linkLine _ _ _ _ _)
  refine ⟨hTexts, ?_⟩
  rcases annotate_line hLine (between_locate source _) hFlat
    with ⟨a, hOk, hPlain⟩
  refine ⟨a, hOk, ?_⟩
  rw [hPlain, hTexts, List.flatMap_append, List.flatMap_cons,
    List.flatMap_map, Node.flatMap_literals]
  rfl

end ProseCheck

------------------------------------------------------------
-- Links with a Target
------------------------------------------------------------

namespace ProseCheck

variable {before label target after : Text}

/-
  In a line, the texts before, in and behind a link with its
  target in parentheses are found where they stand, and read
  one after the other.
-/
theorem annotate_targetLink
    (hTarget : LinkTarget target)
    (hLabel : label ≠ [])
    (hAfter : after ≠ [])
    (hOpen : '[' ∉ label)
    {source : Text}
    (hSource :
      source =
        before ++ '[' :: (label ++
          ']' :: '(' :: (target ++ ')' :: after)))
    (hLine : source.IsLine) :
    let root := locate source
      (Token.linkLine before label after)
    root.texts =
        Node.literals before 0 ++
          [Node.literal label (before.length + 1),
            Node.literal after
              (before.length + label.length +
                target.length + 4)] ∧
      ∃ a, annotate source root = .ok a ∧
        a.plainText = before ++ label ++ after := by
  rcases annotate_linkLine hLabel hAfter hOpen hSource hLine
    with ⟨past, hTail, hTexts, hPlain⟩
  have hFlat : target.IsLine := by
    intro c hMem
    exact hLine c (by simp [hSource, hMem])
  have hBehind :
      Locator.behindLink ('(' :: (target ++ ')' :: after)) =
        after := by
    rw [Locator.behindLink,
      Locator.behindParts_append hTarget hFlat,
      if_pos List.mem_cons_self]
    simp [Text.behindChar]
  rw [hBehind] at hTail
  have hPast :
      past =
        before.length + label.length + target.length + 4 := by
    have hLength := hTail.length_eq
    simp only [hSource, List.length_append,
      List.length_cons] at hLength
    omega
  have hFound :
      source.findIn? after past source.length = some past :=
    hTail.findIn?_self
  rw [hFound] at hTexts hPlain
  dsimp only
  refine ⟨?_, by simpa using hPlain⟩
  rw [hTexts, hPast]
  rfl

/-
  The text behind the link stands in the title as well, with
  a parenthesis in front of it.  It is found where it is.
-/
theorem annotate_targetLink_titled :
    let target : Text := ['u', ' ', '"', ')', 'x', '"']
    let source : Text :=
      '[' :: 'r' :: ']' :: '(' :: (target ++ [')', 'x'])
    let root := locate source
      (Token.linkLine [] ['r'] ['x'])
    root.texts =
        [Node.literal ['r'] 1, Node.literal ['x'] 11] ∧
      ∃ a, annotate source root = .ok a ∧
        a.plainText = ['r', 'x'] :=
  @annotate_targetLink [] ['r'] _ ['x']
    (@LinkTarget.titled ['u'] [')', 'x'] '"' '"'
      (.bare (by decide) (by simp) (by simp [IsControl]))
      (by simp [titleMarks]) (by simp))
    (by decide) (by decide) (by decide +kernel) _ rfl
    (by decide +kernel)

end ProseCheck

------------------------------------------------------------
-- Links without a Target
------------------------------------------------------------

namespace ProseCheck

/-
  A text that begins with a target: a destination and a title
  between parentheses, or as much of them as there is.
-/
def BeginsWithTarget
    (t : Text) : Prop :=
  ∃ rest, t = '(' :: rest ∧
    (Locator.behindParts rest).head? = some ')'

/-
  A text that is taken for one that begins with a target: its
  parenthesis is closed somewhere, no matter what stands in
  front of the closing one.
-/
def TakenForTarget
    (t : Text) : Prop :=
  ∃ rest, t = '(' :: rest ∧ ')' ∈ Locator.behindParts rest

/- It is looked up behind a character whether a target is. -/
theorem exists_cons_iff
    {c d : Char}
    {t : Text}
    {P : Text → Prop} :
    (∃ rest, c :: t = d :: rest ∧ P rest) ↔ c = d ∧ P t := by
  constructor
  · rintro ⟨rest, hSame, hRest⟩
    cases hSame
    exact ⟨rfl, hRest⟩
  · rintro ⟨rfl, hRest⟩
    exact ⟨t, rfl, hRest⟩

instance
    (t : Text) :
    Decidable (BeginsWithTarget t) :=
  match t with
  | [] => isFalse nofun
  | _ :: _ => decidable_of_iff _ exists_cons_iff.symm

instance
    (t : Text) :
    Decidable (TakenForTarget t) :=
  match t with
  | [] => isFalse nofun
  | _ :: _ => decidable_of_iff _ exists_cons_iff.symm

variable {before label after : Text}

/- What is not taken for a target is left behind the link. -/
theorem Locator.behindLink_of_not_taken
    (hOpen : '[' ∉ after)
    (hLeft : ¬ TakenForTarget after) :
    behindLink after = after := by
  cases after with
  | nil => rfl
  | cons c rest =>
      by_cases hParen : c = '('
      · subst hParen
        rw [behindLink,
          if_neg (fun hMem => hLeft ⟨rest, rfl, hMem⟩)]
      · rw [behindLink]
        · exact fun t hSame => hParen (List.cons.inj hSame).1
        · rintro t hSame
          cases hSame
          exact hOpen List.mem_cons_self

/- Of what is taken for a target, only the end is left. -/
theorem Locator.length_behindLink_of_taken
    (hTaken : TakenForTarget after) :
    (behindLink after).length < after.length := by
  rcases hTaken with ⟨rest, rfl, hMem⟩
  rw [behindLink, if_pos hMem]
  exact Nat.lt_succ_of_le
    ((Text.length_behindChar_le _ _).trans
      (length_behindParts_le rest))

/-
  In a line with a link that has a label only, the text that
  follows is read exactly if it is not taken for the target
  of the link.  Otherwise all of it is lost.
-/
theorem annotate_shortcutLink_iff
    (hLabel : label ≠ [])
    (hAfter : after ≠ [])
    (hOpen : '[' ∉ label ++ after)
    {source : Text}
    (hSource :
      source = before ++ '[' :: (label ++ ']' :: after))
    (hLine : source.IsLine) :
    ∃ a,
      annotate source (locate source
          (Token.linkLine before label after)) = .ok a ∧
        (TakenForTarget after →
          a.plainText = before ++ label) ∧
        (a.plainText = before ++ label ++ after ↔
          ¬ TakenForTarget after) := by
  rw [List.mem_append, not_or] at hOpen
  rcases annotate_linkLine hLabel hAfter hOpen.1 hSource hLine
    with ⟨past, hTail, _, a, hOk, hPlain⟩
  refine ⟨a, hOk, ?_⟩
  by_cases hTaken : TakenForTarget after
  -- less is left behind the link than the text is long
  · have hNone :
        source.findIn? after past source.length = none := by
      rw [hTail.findIn?_eq, Text.find?_of_length_lt
        (Locator.length_behindLink_of_taken hTaken)]
      rfl
    simp [hPlain, hNone, hTaken, hAfter]
  · rw [Locator.behindLink_of_not_taken hOpen.2 hTaken]
      at hTail
    have hFound :
        source.findIn? after past source.length =
          some past :=
      hTail.findIn?_self
    simp [hPlain, hFound, hTaken]

/-
  An opening parenthesis behind the link is read on, where
  all that closes belongs to what reads as a title.
-/
theorem annotate_shortcutLink_iff_open :
    let source : Text := "see [r](or (not) so".toList
    ∃ a,
      annotate source (locate source
          (Token.linkLine "see ".toList ['r']
            "(or (not) so".toList)) = .ok a ∧
        a.plainText = "see r(or (not) so".toList := by
  rcases @annotate_shortcutLink_iff "see ".toList ['r']
      "(or (not) so".toList (by decide) (by decide)
      (by decide +kernel) _ rfl (by decide +kernel) with
    ⟨a, hOk, _, hIff⟩
  exact ⟨a, hOk, hIff.mpr (by decide +kernel)⟩

/-
  A remark in parentheses behind the link is lost with all
  that follows, though it is no target.
-/
theorem annotate_shortcutLink_remark :
    let label : Text := ['r']
    let after : Text := "(see below) x".toList
    let source : Text := '[' :: (label ++ ']' :: after)
    let a : AnnotatedText :=
      ⟨[⟨.markup, 0, 1, ['[']⟩, ⟨.text, 1, 2, label⟩,
        ⟨.markup, 2, 16, ']' :: after⟩], 16⟩
    ¬ BeginsWithTarget after ∧
      annotate source (locate source
        (Token.linkLine [] label after)) = .ok a ∧
      a.plainText = label ∧
      a.plainText ≠ label ++ after := by
  intro label after source a
  have hOk :
      annotate source (locate source
        (Token.linkLine [] label after)) = .ok a := by
    decide +kernel
  exact ⟨by decide +kernel, hOk, by decide, by decide⟩

end ProseCheck

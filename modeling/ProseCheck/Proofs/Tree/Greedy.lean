import Mathlib.Data.List.Forall2
import ProseCheck.Proofs.Tree.Leaf
import ProseCheck.Proofs.Tree.Line

/-
  This file shows that the search for the prose of a paragraph
  loses nothing that can be found.  Each piece of it is taken
  at the first place behind the one before it.  If there is
  any way to place all the pieces in the paragraph, one behind
  the other, then all of them are found, and each one is found
  where any such way places it, or before.

  The reason is that a piece that is taken early leaves more
  room for those that follow.  A piece may be part of another
  one or overlap with itself, and this does not matter.

  Main declarations:
    * `Text.Placed`
    * `Text.Found`
    * `Text.exists_found`
    * `Text.Found.le`
    * `Token.Prose`
    * `Locator.consume_prose`
    * `Locator.consume_paragraph_leftmost`
-/

------------------------------------------------------------
-- Placements
------------------------------------------------------------

namespace ProseCheck

namespace Text

/-
  Needles stand in a text at the given offsets, in their order
  and each one behind the one before it, from the offset
  `start` on and up to the offset `stop`.
-/
inductive Placed
    (t : Text)
    (stop : Nat) : Nat → List Text → List Nat → Prop
  | nil {start : Nat} : Placed t stop start [] []
  | cons
      {start i : Nat}
      {needle : Text}
      {needles : List Text}
      {offsets : List Nat}
      (hStart : start ≤ i)
      (hStands : t.StandsAt needle i)
      (hStop : i + needle.length ≤ stop)
      (hRest :
        Placed t stop (i + needle.length) needles offsets) :
      Placed t stop start (needle :: needles) (i :: offsets)

/-
  Needles are found in a text at the given offsets: each one
  is searched for from the end of the one before it on, and
  the last one of them ends at the offset `past`.
-/
inductive Found
    (t : Text)
    (stop : Nat) : Nat → List Text → List Nat → Nat → Prop
  | nil {cursor : Nat} : Found t stop cursor [] [] cursor
  | cons
      {cursor i past : Nat}
      {needle : Text}
      {needles : List Text}
      {offsets : List Nat}
      (hHere : t.findIn? needle cursor stop = some i)
      (hRest :
        Found t stop (i + needle.length) needles offsets
          past) :
      Found t stop cursor (needle :: needles) (i :: offsets)
        past

variable
  {t : Text}
  {start stop cursor past : Nat}
  {needles : List Text}
  {offsets found : List Nat}

/- A needle is found where it stands, or before. -/
theorem exists_findIn?_le
    {needle : Text}
    {j : Nat}
    (hCursor : cursor ≤ j)
    (hStands : t.StandsAt needle j)
    (hStop : j + needle.length ≤ stop) :
    ∃ i ≤ j, t.findIn? needle cursor stop = some i := by
  have hSlice :
      (t.slice cursor stop).StandsAt needle (j - cursor) := by
    rw [StandsAt, slice, List.drop_drop,
      Nat.add_sub_of_le hCursor, List.drop_take,
      List.prefix_take_iff]
    exact ⟨hStands, by omega⟩
  rcases exists_find? hSlice with ⟨k, hFind⟩
  have hFirst : k ≤ j - cursor := by
    by_contra hLater
    exact (find?_eq_some_iff.mp hFind).2 _
      (Nat.lt_of_not_le hLater) hSlice
  refine ⟨k + cursor, by omega, ?_⟩
  rw [findIn?, hFind]
  rfl

/-
  Needles that can be placed are found, if the search begins
  early enough: it is never behind the placement.
-/
theorem exists_found
    (hPlaced : t.Placed stop start needles offsets)
    (hCursor : cursor ≤ start) :
    ∃ found past,
      t.Found stop cursor needles found past := by
  induction hPlaced generalizing cursor with
  | nil => exact ⟨[], cursor, .nil⟩
  | cons hStart hStands hStop _ ih =>
      rcases exists_findIn?_le
          (Nat.le_trans hCursor hStart) hStands hStop with
        ⟨i, hFirst, hHere⟩
      rcases ih (Nat.add_le_add_right hFirst _) with
        ⟨found, past, hRest⟩
      exact ⟨i :: found, past, .cons hHere hRest⟩

/- No placement has a needle before the place it is found. -/
theorem Found.le
    (hFound : t.Found stop cursor needles found past)
    (hPlaced : t.Placed stop start needles offsets)
    (hCursor : cursor ≤ start) :
    List.Forall₂ (· ≤ ·) found offsets := by
  induction hFound generalizing start offsets with
  | nil =>
      cases hPlaced
      exact .nil
  | cons hHere _ ih =>
      cases hPlaced with
      | cons hStart hStands hStop hRest =>
          rcases exists_findIn?_le
              (Nat.le_trans hCursor hStart) hStands hStop with
            ⟨i, hFirst, hSame⟩
          obtain rfl : i = _ :=
            Option.some.inj (hSame.symm.trans hHere)
          exact .cons hFirst
            (ih hRest (Nat.add_le_add_right hFirst _))

/- Where needles are found is itself a placement of them. -/
theorem Found.placed
    (hFound : t.Found stop cursor needles found past)
    (hSome : ∀ needle ∈ needles, needle ≠ []) :
    t.Placed stop cursor needles found := by
  induction hFound with
  | nil => exact .nil
  | cons hHere _ ih =>
      rcases List.forall_mem_cons.mp hSome with ⟨hNeedle, hRest⟩
      have hBounds := findIn?_bounds hNeedle hHere
      exact .cons hBounds.1 (standsAt_of_findIn? hHere)
        hBounds.2.1 (ih hRest)

/- Each needle is found at one offset. -/
theorem Found.length_eq
    (hFound : t.Found stop cursor needles found past) :
    found.length = needles.length := by
  induction hFound with
  | nil => rfl
  | cons _ _ ih => simp [ih]

/- Needles are found in two parts as they are altogether. -/
theorem Found.split
    {first second : List Text}
    (hFound :
      t.Found stop cursor (first ++ second) found past) :
    ∃ before after middle,
      found = before ++ after ∧
        t.Found stop cursor first before middle ∧
        t.Found stop middle second after past := by
  induction first generalizing cursor found with
  | nil => exact ⟨[], found, cursor, rfl, .nil, hFound⟩
  | cons needle first ih =>
      cases hFound with
      | cons hHere hRest =>
          rcases ih hRest with
            ⟨before, after, middle, rfl, hFirst, hSecond⟩
          exact ⟨_ :: before, after, middle, rfl,
            .cons hHere hFirst, hSecond⟩

end Text

end ProseCheck

------------------------------------------------------------
-- Prose
------------------------------------------------------------

namespace ProseCheck

namespace Token

/-
  A token that is searched for as it is written in the source:
  a text, a special character, or a tag.
-/
def IsWritten
    (t : Token) : Prop :=
  ¬ (t.nesting = 1 ∨ t.nesting = -1) ∧
    t.name ∈ ["text", "text_special", "html_inline"]

instance
    (t : Token) :
    Decidable t.IsWritten := by
  unfold IsWritten
  infer_instance

/- What such a token is written as. -/
def needle
    (t : Token) : Text :=
  if t.IsSpecial ∧ t.markup ≠ [] then t.markup
  else t.content

/- The node of such a token, if it is found at an offset. -/
def nodeAt
    (t : Token)
    (offset : Nat) : Node :=
  { kind := if t.name = "html_inline" then .html else .text,
    start := offset + ((if t.IsEscape then 1 else 0 : Nat) : Int),
    stop := (offset + t.needle.length : Nat),
    content := if t.name = "html_inline" then [] else t.content }

/- The tokens of a list that are searched for. -/
def writtenOf
    (ts : List Token) : List Token :=
  ts.filter (fun t => t.IsWritten)

/- What they are written as, in their order. -/
def needlesOf
    (ts : List Token) : List Text :=
  (writtenOf ts).map needle

/-
  Prose, as the tokens of it: what is searched for, the ends
  of lines, and prose that is marked as emphasis.  The mark
  carries no place, like all tokens inside of a block.
-/
inductive Prose : List Token → Prop
  | nil : Prose []
  | written
      {t : Token}
      {ts : List Token}
      (hWritten : t.IsWritten)
      (hNeedle : t.needle ≠ [])
      (hRest : Prose ts) :
      Prose (t :: ts)
  | lineBreak
      {t : Token}
      {ts : List Token}
      (hNesting : ¬ (t.nesting = 1 ∨ t.nesting = -1))
      (hName : t.name ∈ ["softbreak", "hardbreak"])
      (hRest : Prose ts) :
      Prose (t :: ts)
  | marked
      {opening closing : Token}
      {inside ts : List Token}
      (hOpening : opening.nesting = 1)
      (hName : opening.name ∈ ["em_open", "strong_open"])
      (hLines : opening.lines = none)
      (hClosing : closing.nesting = -1)
      (hInside : Prose inside)
      (hRest : Prose ts) :
      Prose (opening :: (inside ++ closing :: ts))

end Token

end ProseCheck

------------------------------------------------------------
-- Written Tokens
------------------------------------------------------------

namespace ProseCheck

namespace Token

variable
  {t : Token}
  {ts : List Token}

/- A token that is searched for is one of those in a list. -/
theorem writtenOf_cons_of_written
    (hWritten : t.IsWritten)
    (ts : List Token) :
    writtenOf (t :: ts) = t :: writtenOf ts :=
  List.filter_cons_of_pos (by simpa using hWritten)

/- Any other token is none of those in a list. -/
theorem writtenOf_cons_of_not_written
    (hOther : ¬ t.IsWritten)
    (ts : List Token) :
    writtenOf (t :: ts) = writtenOf ts :=
  List.filter_cons_of_neg (by simpa using hOther)

/- The end of a line is not searched for. -/
theorem not_isWritten_of_break
    (hName : t.name ∈ ["softbreak", "hardbreak"]) :
    ¬ t.IsWritten := by
  rintro ⟨_, hWritten⟩
  simp only [List.mem_cons, List.not_mem_nil, or_false]
    at hName
  rcases hName with hName | hName <;> simp [hName] at hWritten

/- What is searched for around and in a mark is the prose. -/
theorem writtenOf_marked
    {opening closing : Token}
    (hOpening : opening.nesting = 1)
    (hClosing : closing.nesting = -1)
    (inside ts : List Token) :
    writtenOf (opening :: (inside ++ closing :: ts)) =
      writtenOf inside ++ writtenOf ts := by
  have hNoOpening : ¬ opening.IsWritten :=
    fun hWritten => hWritten.1 (Or.inl hOpening)
  have hNoClosing : ¬ closing.IsWritten :=
    fun hWritten => hWritten.1 (Or.inr hClosing)
  rw [writtenOf_cons_of_not_written hNoOpening, writtenOf,
    List.filter_append, ← writtenOf, ← writtenOf,
    writtenOf_cons_of_not_written hNoClosing]

/- All that is searched for in prose is written somehow. -/
theorem Prose.needle_ne_nil
    (hProse : Prose ts) :
    ∀ needle ∈ needlesOf ts, needle ≠ [] := by
  induction hProse with
  | nil => simp [needlesOf, writtenOf]
  | written hWritten hNeedle _ ih =>
      rw [needlesOf, writtenOf_cons_of_written hWritten]
      exact List.forall_mem_cons.mpr ⟨hNeedle, ih⟩
  | lineBreak _ hName _ ih =>
      rw [needlesOf, writtenOf_cons_of_not_written
        (not_isWritten_of_break hName)]
      exact ih
  | marked hOpening _ _ hClosing _ _ ihInside ihRest =>
      rw [needlesOf, writtenOf_marked hOpening hClosing,
        List.map_append]
      exact List.forall_mem_append.mpr ⟨ihInside, ihRest⟩

end Token

/- The texts and tags of some nodes and of those in them. -/
def Node.writtenIn
    (ns : List Node) : List Node :=
  (preorderAll ns).filter
    (fun n => n.kind = .text ∨ n.kind = .html)

namespace Node

/- The node of a token comes before what is in the others. -/
theorem writtenIn_nodeAt
    (t : Token)
    (offset : Nat)
    (ns : List Node) :
    writtenIn (t.nodeAt offset :: ns) =
      t.nodeAt offset :: writtenIn ns := by
  have hKind :
      (t.nodeAt offset).kind = .text ∨
        (t.nodeAt offset).kind = .html := by
    dsimp only [Token.nodeAt]
    split
    · exact Or.inr rfl
    · exact Or.inl rfl
  have hRow :
      preorderAll (t.nodeAt offset :: ns) =
        t.nodeAt offset :: preorderAll ns := by
    simp [preorderAll, preorder, Token.nodeAt]
  rw [writtenIn, hRow,
    List.filter_cons_of_pos (by simpa using hKind)]
  rfl

/- What is in a container comes before what is in others. -/
theorem writtenIn_container
    {n : Node}
    (hText : n.kind ≠ .text)
    (hTag : n.kind ≠ .html)
    (ns : List Node) :
    writtenIn (n :: ns) =
      writtenIn n.children ++ writtenIn ns := by
  cases n
  simp_all [writtenIn, preorderAll, preorder]

end Node

namespace Locator

variable
  {source : Text}
  {l : Locator}

/- What is written where it is found becomes a node there. -/
theorem written_of_find
    (kind : NodeKind)
    {needle : Text}
    (content : Text)
    (skip : Nat)
    (hSome : needle ≠ [])
    {i : Nat}
    (hFound :
      source.findIn? needle l.cursor l.limit = some i) :
    l.written source kind needle content skip =
      { l with
        cursor := i + needle.length,
        top := l.top.add
          ⟨kind, i + skip, (i + needle.length : Nat), content,
            []⟩ } := by
  have hFind : l.find? source needle = some i := by
    rw [find?, if_neg (by simpa using hSome), hFound]
  rw [written, hFind]
  rfl

/- A special character is searched for as it is written. -/
theorem special_eq_written
    (source : Text)
    {t : Token}
    (hSpecial : t.IsSpecial)
    (l : Locator) :
    l.special source t.content t.markup t.info =
      l.written source .text t.needle t.content
        (if t.IsEscape then 1 else 0) := by
  rw [special]
  by_cases hMark :
      t.info = "escape" ∧ t.markup.head? = some '\\'
  · have hEscape : t.IsEscape := ⟨hSpecial, hMark⟩
    have hMarkup : t.markup ≠ [] := by
      intro hNone
      simp [hNone] at hMark
    rw [if_pos hMark, if_pos hEscape, Token.needle,
      if_pos ⟨hSpecial, hMarkup⟩]
  · have hEntity : ¬ t.IsEscape := fun hEscape =>
      hMark hEscape.2
    rw [if_neg hMark, if_neg hEntity, Token.needle]
    by_cases hMarkup : t.markup = [] <;>
      simp [hMarkup, hSpecial]

/- A token that is searched for is taken as it is written. -/
theorem step_of_written
    (source : Text)
    {t : Token}
    (hWritten : t.IsWritten)
    (l : Locator) :
    step source t l =
      l.written source
        (if t.name = "html_inline" then .html else .text)
        t.needle
        (if t.name = "html_inline" then [] else t.content)
        (if t.IsEscape then 1 else 0) := by
  rcases hWritten with ⟨hNesting, hName⟩
  have hLeaf :
      step source t l =
        l.leaf source t.name t.lines t.content t.markup
          t.info :=
    step_of_leaf source hNesting
      (ne_of_mem_of_not_mem hName (by decide))
      (ne_of_mem_of_not_mem hName (by decide)) l
  simp only [List.mem_cons, List.not_mem_nil, or_false]
    at hName
  rw [hLeaf, leaf]
  rcases hName with hName | hName | hName
  · simp [Token.needle, Token.IsEscape, Token.IsSpecial,
      leafBlockKind?, hName]
  · simp [special_eq_written source hName, leafBlockKind?,
      hName]
  · simp [Token.needle, Token.IsEscape, Token.IsSpecial,
      leafBlockKind?, hName]

/- A token that is found becomes the node of that place. -/
theorem step_of_found
    {t : Token}
    (hWritten : t.IsWritten)
    (hSome : t.needle ≠ [])
    {i : Nat}
    (hFound :
      source.findIn? t.needle l.cursor l.limit = some i) :
    step source t l =
      { l with
        cursor := i + t.needle.length,
        top := l.top.add (t.nodeAt i) } := by
  rw [step_of_written source hWritten,
    written_of_find _ _ _ hSome hFound]
  rfl

/- The end of a line changes nothing. -/
theorem step_of_break
    (source : Text)
    {t : Token}
    (hNesting : ¬ (t.nesting = 1 ∨ t.nesting = -1))
    (hName : t.name ∈ ["softbreak", "hardbreak"])
    (l : Locator) :
    step source t l = l := by
  have hLeaf :
      step source t l =
        l.leaf source t.name t.lines t.content t.markup
          t.info :=
    step_of_leaf source hNesting
      (ne_of_mem_of_not_mem hName (by decide))
      (ne_of_mem_of_not_mem hName (by decide)) l
  simp only [List.mem_cons, List.not_mem_nil, or_false]
    at hName
  rw [hLeaf, leaf]
  rcases hName with hName | hName <;>
    simp [leafBlockKind?, hName]

end Locator

end ProseCheck

------------------------------------------------------------
-- Prose in its Order
------------------------------------------------------------

namespace ProseCheck

namespace Locator

variable
  {source : Text}
  {l : Locator}

/- What is marked as emphasis is no text, tag, link or block. -/
theorem containerKind_mark
    {name : String}
    (hName : name ∈ ["em_open", "strong_open"]) :
    containerKind name = .emphasis ∨
      containerKind name = .strong := by
  simp only [List.mem_cons, List.not_mem_nil, or_false]
    at hName
  rcases hName with rfl | rfl
  · exact Or.inl (by decide)
  · exact Or.inr (by decide)

/- A mark of emphasis is opened where the search is. -/
theorem step_openMark
    (source : Text)
    {t : Token}
    (hOpening : t.nesting = 1)
    (hLines : t.lines = none)
    (l : Locator) :
    step source t l =
      { l with
        top :=
          { kind := containerKind t.name, markup := t.markup },
        outer := l.top :: l.outer } := by
  cases t
  subst hLines
  rw [step, if_pos hOpening]
  rfl

/-
  A mark of emphasis is closed where the search is, and
  becomes a node with all that is in it.
-/
theorem step_closeMark
    (source : Text)
    {t : Token}
    (hClosing : t.nesting = -1)
    {kind : NodeKind}
    (hKind : kind ≠ .link)
    (markup : Text)
    (nodes : List Node)
    (l : Locator) :
    let frame : Frame :=
      { kind := kind, markup := markup,
        recent := nodes.reverse }
    step source t
        { l with top := frame, outer := l.top :: l.outer } =
      { l with top := l.top.add (frame.close l.cursor) } := by
  intro frame
  cases t
  rw [step, if_neg (by simp_all), if_pos hClosing, closeFrame,
    finish, if_neg hKind]
  simp [frame]

/-
  Prose that can be found becomes nodes, one for each token
  that is searched for, at the places where it is found.
-/
theorem consume_prose
    {ts : List Token}
    (hProse : Token.Prose ts)
    {found : List Nat}
    {past : Nat}
    (hFound :
      source.Found l.limit l.cursor (Token.needlesOf ts) found
        past) :
    ∃ nodes,
      consume source ts l =
          { l with
            cursor := past,
            top := { l.top with
              recent := nodes.reverse ++ l.top.recent } } ∧
        Node.writtenIn nodes =
          List.zipWith Token.nodeAt (Token.writtenOf ts)
            found := by
  induction hProse generalizing l found past with
  | nil =>
      cases hFound
      refine ⟨[], ?_, rfl⟩
      rw [consume]
      rfl
  | @written t ts hWritten hNeedle _ ih =>
      rw [Token.needlesOf,
        Token.writtenOf_cons_of_written hWritten,
        List.map_cons] at hFound
      cases hFound with
      | @cons _ i _ _ _ offsets hHere hRest =>
          have hStep := step_of_found hWritten hNeedle hHere
          rcases ih (l := { l with
              cursor := i + t.needle.length,
              top := l.top.add (t.nodeAt i) }) hRest with
            ⟨nodes, hConsume, hNodes⟩
          refine ⟨t.nodeAt i :: nodes, ?_, ?_⟩
          · rw [consume, hStep, hConsume]
            simp [Frame.add]
          · rw [Node.writtenIn_nodeAt, hNodes,
              Token.writtenOf_cons_of_written hWritten]
            rfl
  | @lineBreak t ts hNesting hName _ ih =>
      have hOther := Token.not_isWritten_of_break hName
      rw [Token.needlesOf,
        Token.writtenOf_cons_of_not_written hOther] at hFound
      rw [consume, step_of_break source hNesting hName,
        Token.writtenOf_cons_of_not_written hOther]
      exact ih hFound
  | @marked opening closing inside ts hOpening hName hLines
      hClosing _ _ ihInside ihRest =>
      rw [Token.needlesOf,
        Token.writtenOf_marked hOpening hClosing,
        List.map_append] at hFound
      rcases hFound.split with
        ⟨before, after, middle, rfl, hFirst, hSecond⟩
      let kind := containerKind opening.name
      have hKind : kind = .emphasis ∨ kind = .strong :=
        containerKind_mark hName
      have hLink : kind ≠ .link := by
        rcases hKind with hKind | hKind <;> simp [hKind]
      -- the prose in the mark, on a stack with one frame more
      rcases ihInside (l := { l with
          top := { kind := kind, markup := opening.markup },
          outer := l.top :: l.outer }) hFirst with
        ⟨nodes, hInside, hNodes⟩
      rw [List.append_nil] at hInside
      let frame : Frame :=
        { kind := kind, markup := opening.markup,
          recent := nodes.reverse }
      -- what follows, with the mark as one node more
      rcases ihRest (l := { l with
          cursor := middle,
          top := l.top.add (frame.close middle) }) hSecond with
        ⟨rest, hRest, hRestNodes⟩
      refine ⟨frame.close middle :: rest, ?_, ?_⟩
      · have hClose := step_closeMark source hClosing hLink
          opening.markup nodes { l with cursor := middle }
        rw [consume, step_openMark source hOpening hLines,
          consume_append, hInside, consume]
        rw [hClose, hRest]
        simp [Frame.add]
      · have hChildren :
            (frame.close middle).children = nodes :=
          List.reverse_reverse nodes
        have hLength := hFirst.length_eq
        rw [List.length_map] at hLength
        rw [Node.writtenIn_container, hChildren, hNodes,
          hRestNodes, Token.writtenOf_marked hOpening hClosing,
          List.zipWith_append hLength.symm]
        · rcases hKind with hKind | hKind <;>
            simp [frame, Frame.close, hKind]
        · rcases hKind with hKind | hKind <;>
            simp [frame, Frame.close, hKind]

end Locator

end ProseCheck

------------------------------------------------------------
-- Paragraphs
------------------------------------------------------------

namespace ProseCheck

/- An open paragraph, with the nodes that are found in it. -/
def Frame.paragraph
    (start stop : Nat)
    (markup : Text)
    (nodes : List Node) : Frame :=
  { kind := .paragraph, start := some start,
    stop := some stop, markup := markup,
    recent := nodes.reverse }

namespace Locator

variable
  {source : Text}
  {l : Locator}
  {start stop : Nat}

/- A paragraph is opened for a search from its start on. -/
theorem step_openParagraph
    {t : Token}
    (hOpening : t.nesting = 1)
    (hName : t.name = "paragraph_open")
    (hSpan : blockSpan source t.lines = some (start, stop))
    (hCursor : l.cursor ≤ start) :
    step source t l =
      { cursor := start,
        limit := stop,
        top := .paragraph start stop t.markup [],
        outer := l.top :: l.outer } := by
  cases t
  have hKind : containerKind "paragraph_open" = .paragraph := by
    decide
  dsimp only at hName hSpan
  rw [step, if_pos hOpening, openFrame, hSpan, hName]
  simp [Frame.paragraph, hKind, hCursor]

/- A paragraph that is closed covers its lines. -/
theorem top_closeParagraph
    (source : Text)
    {t : Token}
    (hClosing : t.nesting = -1)
    (hOrder : start ≤ stop)
    (cursor limit : Nat)
    (markup : Text)
    (nodes : List Node)
    (parent : Frame)
    (outer : List Frame) :
    (step source t
        ⟨cursor, limit, .paragraph start stop markup nodes,
          parent :: outer⟩).top =
      parent.add ⟨.paragraph, start, stop, [], nodes⟩ := by
  have hMax : max (start : Int) stop = stop :=
    max_eq_right (Int.ofNat_le.mpr hOrder)
  cases t
  rw [step, if_neg (by simp_all), if_pos hClosing, closeFrame]
  simp [finish, Frame.paragraph, Frame.close, hMax]

/-
  A paragraph of prose is met when the search is at its start
  or before.  If all that is searched for can be placed in the
  paragraph, one behind the other, then all of it becomes
  nodes of the paragraph.  Their places are such a placement
  as well, and no placement has any of them at an earlier
  place.
-/
theorem consume_paragraph_leftmost
    {opening line : Token}
    (hOpening : opening.nesting = 1)
    (hName : opening.name = "paragraph_open")
    (hSpan :
      blockSpan source opening.lines = some (start, stop))
    (hNesting : ¬ (line.nesting = 1 ∨ line.nesting = -1))
    (hLine : line.name = "inline")
    (hProse : Token.Prose line.children)
    (hCursor : l.cursor ≤ start)
    {placement : List Nat}
    (hPlaced :
      source.Placed stop start (Token.needlesOf line.children)
        placement) :
    ∃ nodes found past,
      consume source [opening, line] l =
          { cursor := past,
            limit := stop,
            top := .paragraph start stop opening.markup nodes,
            outer := l.top :: l.outer } ∧
        (∀ closing : Token, closing.nesting = -1 →
          (consume source [opening, line, closing] l).top =
            l.top.add
              ⟨.paragraph, start, stop, [], nodes⟩) ∧
        Node.writtenIn nodes =
          List.zipWith Token.nodeAt
            (Token.writtenOf line.children) found ∧
        source.Placed stop start
          (Token.needlesOf line.children) found ∧
        ∀ offsets,
          source.Placed stop start
              (Token.needlesOf line.children) offsets →
            List.Forall₂ (· ≤ ·) found offsets := by
  rcases Text.exists_found hPlaced (Nat.le_refl start) with
    ⟨found, past, hFound⟩
  let opened : Locator :=
    { cursor := start,
      limit := stop,
      top := .paragraph start stop opening.markup [],
      outer := l.top :: l.outer }
  have hOpen : step source opening l = opened :=
    step_openParagraph hOpening hName hSpan hCursor
  rcases consume_prose (l := opened) hProse hFound with
    ⟨nodes, hProseNodes, hNodes⟩
  have hStep :
      step source line opened =
        consume source line.children opened := by
    rcases not_or.mp hNesting with ⟨hOpens, hCloses⟩
    cases line
    rw [step, if_neg hOpens, if_neg hCloses, if_pos hLine]
  have hBoth :
      consume source [opening, line] l =
        { cursor := past,
          limit := stop,
          top := .paragraph start stop opening.markup nodes,
          outer := l.top :: l.outer } := by
    rw [consume, hOpen, consume, hStep, hProseNodes, consume]
    simp [opened, Frame.paragraph]
  refine ⟨nodes, found, past, hBoth, ?_, hNodes,
    hFound.placed hProse.needle_ne_nil, ?_⟩
  · intro closing hClosing
    have hAll :
        consume source [opening, line, closing] l =
          step source closing
            (consume source [opening, line] l) := by
      simp only [consume]
    rw [hAll, hBoth]
    exact top_closeParagraph source hClosing
      (blockSpan_bounds hSpan).1 _ _ _ _ _ _
  · intro offsets hOther
    exact hFound.le hOther (Nat.le_refl start)

/-
  The same word twice, the second time where it overlaps with
  itself, in a line with an escape, an entity and a tag.  It
  is found at its first place, and might as well be placed at
  the second one.
-/
theorem consume_paragraph_leftmost_overlap :
    let source : Text := "aa *aaa* \\*&amp;<b>".toList
    let opening : Token :=
      { name := "paragraph_open", nesting := 1,
        lines := some (0, 1) }
    let prose : List Token :=
      [.text ['a', 'a'],
        { name := "em_open", nesting := 1 },
        .text ['a', 'a'],
        { name := "em_close", nesting := -1 },
        { name := "text_special", content := ['*'],
          markup := ['\\', '*'], info := "escape" },
        { name := "text_special", content := ['&'],
          markup := "&amp;".toList, info := "entity" },
        { name := "html_inline", content := "<b>".toList }]
    let line : Token := { name := "inline", children := prose }
    let closing : Token :=
      { name := "paragraph_close", nesting := -1 }
    let l := Locator.start source
    ∃ nodes found,
      (consume source [opening, line, closing] l).top =
          l.top.add ⟨.paragraph, 0, 19, [], nodes⟩ ∧
        Node.writtenIn nodes =
          List.zipWith Token.nodeAt (Token.writtenOf prose)
            found ∧
        source.Placed 19 0 (Token.needlesOf prose) found ∧
        List.Forall₂ (· ≤ ·) found [0, 5, 9, 11, 16] := by
  intro source opening prose line closing l
  have hEnd : Token.Prose (prose.drop 4) :=
    .written (by decide) (by decide)
      (.written (by decide) (by decide)
        (.written (by decide) (by decide) .nil))
  have hMarked :
      Token.Prose
        ({ name := "em_open", nesting := 1 } ::
          ([.text ['a', 'a']] ++
            { name := "em_close", nesting := -1 } ::
              prose.drop 4)) :=
    .marked rfl (by decide) rfl rfl
      (.written (by decide) (by decide) .nil) hEnd
  have hPlaced :
      source.Placed 19 0 (Token.needlesOf prose)
        [0, 5, 9, 11, 16] := by
    repeat' first
      | exact .nil
      | refine .cons (by decide)
          (List.isPrefixOf_iff_prefix.mp rfl) (by decide) ?_
  rcases @consume_paragraph_leftmost source l 0 19 opening
      line rfl rfl (by decide +kernel) (by decide) rfl
      (.written (by decide) (by decide) hMarked)
      (Nat.le_refl 0) _ hPlaced with
    ⟨nodes, found, _, _, hClosed, hNodes, hFound, hFirst⟩
  exact ⟨nodes, found, hClosed closing rfl, hNodes, hFound,
    hFirst _ hPlaced⟩

end Locator

end ProseCheck

import ProseCheck.Proofs.Tree.Handed
import ProseCheck.Proofs.Tree.Origin
import ProseCheck.Proofs.Tree.Reading

/-
  This file shows that the characters that are read from
  located tokens come from their source.  A plain character
  is the one that stands where its offset is taken to, or a
  space in the place of a line break, or it is read for an
  entity that covers the place.

  Escaped characters are no exception, as long as the markup
  of the token is its content behind a backslash.

  Main declarations:
    * `Node.WrittenAs.carries`
    * `Node.WrittenAs.start_lt_stop`
    * `annotate_locate_characters`
-/

------------------------------------------------------------
-- Characters of Located Texts
------------------------------------------------------------

namespace ProseCheck

namespace Node

variable
  {source needle content : Text}
  {n : Node}
  {c : Char}
  {place : Nat}

/-
  The characters of a text that is written as its content,
  behind those that are skipped, are the ones in the source.
-/
theorem WrittenAs.carries
    {skip : Nat}
    (hWritten : n.WrittenAs source needle content skip)
    (hContent : needle.drop skip = content)
    (hCarries : n.segment.Carries c place) :
    source[place]? = some c := by
  have hIdentity := hWritten.isIdentity hContent
  rcases hWritten with ⟨_, index, hStands, rfl⟩
  rcases hCarries with ⟨_, i, hHere, hPlace⟩
  have hThere : needle[skip + i]? = some c := by
    rw [← List.getElem?_drop, hContent]
    exact hHere
  have hInside : skip + i < needle.length :=
    (List.getElem?_eq_some_iff.mp hThere).1
  rw [Segment.originalStart, if_pos (hIdentity (by omega))]
    at hPlace
  have hSame : index + (skip + i) = place := by
    simp only [segment] at hPlace
    omega
  rw [← hSame, hStands.getElem? hInside]
  exact hThere

/- A text that is written without a skip covers something. -/
theorem WrittenAs.start_lt_stop
    (hWritten : n.WrittenAs source needle content 0) :
    n.start < n.stop := by
  rcases hWritten with ⟨hNeedle, index, _, rfl⟩
  have hPositive := List.length_pos_iff.mpr hNeedle
  dsimp only
  omega

end Node

end ProseCheck

------------------------------------------------------------
-- Characters of an Annotated Text
------------------------------------------------------------

namespace ProseCheck

/-
  Let the markup of each located escape be its content behind
  a backslash.  Then each plain character that is read from
  located tokens

    * is the character that stands where its offset is taken
      to, or
    * is a space, where a carriage return or a line feed
      stands there, or
    * is read for an entity, in a text of the tree that the
      entity is located as, and that covers the place.
-/
theorem annotate_locate_characters
    {source : Text}
    {tokens : List Token}
    {a : AnnotatedText}
    (hOk : annotate source (locate source tokens) = .ok a)
    (hEscapes :
      ∀ (t : Token) (n : Node), t.IsEscape →
        t.LocatedAt source tokens n →
          t.markup = '\\' :: t.content)
    {offset : Nat}
    (hOffset : offset < a.plainText.length) :
    ∃ place : Nat,
      a.originalOffset offset = .ok (place : Int) ∧
        (a.plainText[offset]? = source[place]? ∨
          (a.plainText[offset]? = some ' ' ∧
            (source[place]? = some '\r' ∨
              source[place]? = some '\n')) ∨
          ∃ (t : Token) (n : Node),
            t.IsEntity ∧ t.LocatedAt source tokens n ∧
              n.TextOf (locate source tokens) ∧
                n.Spans place) := by
  rcases annotate_carries hOk hOffset with
    ⟨c, place, hHere, hPlace, s, hTexts, hCarries⟩
  refine ⟨place, hPlace, ?_⟩
  rw [hHere]
  rcases hTexts with hBreak | ⟨n, hText, rfl⟩
  -- the character is read for a line break
  · rcases hBreak.carries hCarries with
      hSame | ⟨rfl, d, hThere, hChar⟩
    · exact Or.inl hSame.symm
    · refine Or.inr (Or.inl ⟨rfl, ?_⟩)
      rw [hThere]
      simpa [isBreakChar] using hChar
  -- the character is read for a token
  · rcases exists_locatedAt hText with ⟨t, hLocated⟩
    rcases hLocated.makes hText.kind_eq with
      ⟨_, hWritten⟩ | ⟨hEscape, hWritten⟩ |
        ⟨hEntity, hWritten⟩
    · exact Or.inl (hWritten.carries rfl hCarries).symm
    · have hMarkup := hEscapes t n hEscape hLocated
      have hContent : t.markup.drop 1 = t.content := by
        rw [hMarkup]
        rfl
      exact Or.inl (hWritten.carries hContent hCarries).symm
    · exact Or.inr (Or.inr ⟨t, n, hEntity, hLocated, hText,
        hCarries.spans hWritten.start_lt_stop⟩)

/-
  A letter, an escaped star, an entity, a break of two
  characters and one more letter.  The entity is one plain
  character, which is taken to the start of its name.
-/
theorem annotate_locate_characters_entity :
    let source : Text :=
      ['a', '\\', '*', '&', 'l', 't', ';', '\r', '\n', 'b']
    let tokens : List Token :=
      [{ name := "paragraph_open", nesting := 1,
          lines := some (0, 2) },
        { name := "inline",
          children :=
            [{ name := "text", content := ['a'] },
              { name := "text_special", content := ['*'],
                markup := ['\\', '*'], info := "escape" },
              { name := "text_special", content := ['<'],
                markup := ['&', 'l', 't', ';'],
                info := "entity" },
              { name := "softbreak" },
              { name := "text", content := ['b'] }] },
        { name := "paragraph_close", nesting := -1 }]
    let a : AnnotatedText :=
      ⟨[⟨.text, 0, 1, ['a']⟩, ⟨.markup, 1, 2, ['\\']⟩,
        ⟨.text, 2, 3, ['*']⟩, ⟨.text, 3, 7, ['<']⟩,
        ⟨.text, 7, 9, [' ']⟩, ⟨.text, 9, 10, ['b']⟩], 10⟩
    annotate source (locate source tokens) = .ok a ∧
      (∀ (t : Token) (n : Node), t.IsEscape →
        t.LocatedAt source tokens n →
          t.markup = '\\' :: t.content) ∧
      2 < a.plainText.length ∧
      ∃ place : Nat,
        a.originalOffset (2 : Nat) = .ok (place : Int) ∧
          (a.plainText[2]? = source[place]? ∨
            (a.plainText[2]? = some ' ' ∧
              (source[place]? = some '\r' ∨
                source[place]? = some '\n')) ∨
            ∃ (t : Token) (n : Node),
              t.IsEntity ∧ t.LocatedAt source tokens n ∧
                n.TextOf (locate source tokens) ∧
                  n.Spans place) := by
  intro source tokens a
  have hOk : annotate source (locate source tokens) = .ok a := by
    decide +kernel
  have hEscapes :
      ∀ (t : Token) (n : Node), t.IsEscape →
        t.LocatedAt source tokens n →
          t.markup = '\\' :: t.content := by
    intro t n hEscape hLocated
    refine forall_locatedAt
      (p := fun u _ =>
        u.IsEscape → u.markup = '\\' :: u.content)
      ?_ t n hLocated hEscape
    decide
  have hOffset : 2 < a.plainText.length := by
    decide
  exact ⟨hOk, hEscapes, hOffset,
    annotate_locate_characters hOk hEscapes hOffset⟩

end ProseCheck

import ProseCheck.Proofs.Text.Leftmost
import ProseCheck.Proofs.Tree.Origin

/-
  This file says what one leaf does to the state of a search.
  A text that is found becomes a node at the leftmost place
  where it stands, and the search goes on behind it.  A text
  that is not found leaves no trace.

  Main declarations:
    * `Token.text`
    * `Node.literal`
    * `Locator.step_of_text`
    * `Locator.step_of_special`
    * `Locator.step_of_code`
    * `Locator.written_of_top`
    * `Locator.step_text`
    * `Locator.step_text_of_find`
-/

------------------------------------------------------------
-- Leaves by their Names
------------------------------------------------------------

namespace ProseCheck

namespace Locator

variable
  {t : Token}
  (source : Text)
  (l : Locator)

/- A token that is named a leaf inside of a block is one. -/
theorem step_of_name
    (hNesting : t.nesting = 0)
    (hName :
      t.name = "text" ∨ t.name = "text_special" ∨
        t.name = "code_inline") :
    step source t l =
      l.leaf source t.name t.lines t.content t.markup
        t.info := by
  refine step_of_leaf source ?_ ?_ ?_ l
  · simp [hNesting]
  · rcases hName with hName | hName | hName <;>
      simp [hName]
  · rcases hName with hName | hName | hName <;>
      simp [hName]

/- A text is searched for as it is read. -/
theorem step_of_text
    (hNesting : t.nesting = 0)
    (hName : t.name = "text") :
    step source t l =
      l.written source .text t.content t.content 0 := by
  rw [step_of_name source l hNesting (Or.inl hName), leaf,
    hName]
  rfl

/- A special character is searched for as it is written. -/
theorem step_of_special
    (hNesting : t.nesting = 0)
    (hName : t.name = "text_special") :
    step source t l =
      l.special source t.content t.markup t.info := by
  rw [step_of_name source l hNesting (Or.inr (Or.inl hName)),
    leaf, hName]
  rfl

/- Code is searched for by its marks. -/
theorem step_of_code
    (hNesting : t.nesting = 0)
    (hName : t.name = "code_inline") :
    step source t l = l.codeSpan source t.markup := by
  rw [step_of_name source l hNesting (Or.inr (Or.inr hName)),
    leaf, hName]
  rfl

end Locator

end ProseCheck

------------------------------------------------------------
-- Located Leaves
------------------------------------------------------------

namespace ProseCheck

namespace Locator

/-
  Where something written in the source has become a node, it
  was found there, and the search goes on behind it.
-/
theorem written_of_top
    {source needle content : Text}
    {kind : NodeKind}
    {skip : Nat}
    {l : Locator}
    {n : Node}
    (hTop :
      (l.written source kind needle content skip).top =
        l.top.add n) :
    ∃ i : Nat,
      source.StandsAt needle i ∧
        n = ⟨kind, i + skip, (i + needle.length : Nat),
          content, []⟩ ∧
        l.written source kind needle content skip =
          { l with
            cursor := i + needle.length,
            top := l.top.add n } := by
  rw [written] at hTop ⊢
  cases hFind : l.find? source needle with
  | none =>
      rw [hFind] at hTop
      exact absurd hTop.symm (l.top.add_ne n)
  | some i =>
      rw [hFind] at hTop
      have hNode := Frame.add_inj hTop.symm
      rw [find?] at hFind
      split at hFind
      · cases hFind
      · exact ⟨i, Text.standsAt_of_findIn? hFind, hNode,
          hNode ▸ rfl⟩

end Locator

end ProseCheck

------------------------------------------------------------
-- Texts
------------------------------------------------------------

namespace ProseCheck

/- The token of a text. -/
def Token.text
    (content : Text) : Token :=
  { name := "text", content := content }

/- The node of a text that stands for itself at an offset. -/
def Node.literal
    (content : Text)
    (start : Nat) : Node :=
  ⟨.text, start, (start + content.length : Nat), content, []⟩

namespace Locator

variable
  {source content : Text}
  {l : Locator}

/-
  A text becomes a node where it is found, and is behind then.
  Where it is not found, it leaves no trace.
-/
theorem step_text
    (source : Text)
    (hSome : content ≠ [])
    (l : Locator) :
    let found := source.findIn? content l.cursor l.limit
    step source (Token.text content) l =
      { l with
        cursor := found.elim l.cursor (· + content.length),
        top := { l.top with
          recent :=
            found.toList.map (.literal content) ++
              l.top.recent } } := by
  intro found
  have hHere : l.find? source content = found :=
    if_neg (by simpa using hSome)
  rw [step_of_text source l rfl rfl, written]
  dsimp only [Token.text]
  rw [hHere]
  cases found with
  | none => rfl
  | some i =>
      simp [addNode, Frame.add, Node.literal]

/- A text that is found becomes a node, and is behind then. -/
theorem step_text_of_find
    (hSome : content ≠ [])
    {i : Nat}
    (hFound :
      source.findIn? content l.cursor l.limit = some i) :
    step source (Token.text content) l =
      { l with
        cursor := i + content.length,
        top := l.top.add (.literal content i) } := by
  rw [step_text source hSome, hFound]
  rfl

end Locator

end ProseCheck

import Mathlib.Data.List.DropRight
import ProseCheck.Text.Blank

/-
  This file describes trimmed texts: neither of their ends is
  of a class of characters.  Trimming gives such a text, and
  leaves one that is trimmed already as it is.  What is added
  to the ends does not matter if trimming takes it off again.

  Main declarations:
    * `Text.IsTrimmed`
    * `Text.trim_eq_self_iff`
    * `Text.trim_padded`
    * `strip_strip`
    * `tidy?`
-/

------------------------------------------------------------
-- Trimmed Texts
------------------------------------------------------------

namespace ProseCheck

namespace Text

/- Neither end of a text is of a class of characters. -/
structure IsTrimmed
    (drop : Char → Bool)
    (t : Text) : Prop where
  first : ∀ c ∈ t.head?, drop c = false
  last : ∀ c ∈ t.getLast?, drop c = false

variable
  {drop : Char → Bool}
  {t : Text}

/- What trimming leaves is trimmed. -/
theorem isTrimmed_trim
    (drop : Char → Bool)
    (t : Text) :
    (t.trim drop).IsTrimmed drop := by
  constructor
  · intro c hMem
    -- cutting off the end does not change the first one
    have hPrefix :
        t.trim drop <+: t.dropWhile drop :=
      List.rdropWhile_prefix drop _
    have hNot := List.head?_dropWhile_not drop t
    rcases List.head?_eq_some_iff.mp hMem with ⟨cs, hText⟩
    rcases hPrefix with ⟨rest, hRest⟩
    rw [← hRest, hText] at hNot
    exact hNot
  · intro c hMem
    rw [Text.trim, List.getLast?_reverse] at hMem
    have hNot :=
      List.head?_dropWhile_not drop
        (t.dropWhile drop).reverse
    rw [Option.mem_def.mp hMem] at hNot
    exact hNot

/- Nothing in front of a trimmed text is dropped. -/
theorem IsTrimmed.dropWhile_eq
    (hTrimmed : t.IsTrimmed drop) :
    t.dropWhile drop = t := by
  cases t with
  | nil => rfl
  | cons c cs =>
      exact List.dropWhile_cons_of_neg
        (Bool.eq_false_iff.mp (hTrimmed.first c rfl))

/- Read backwards, a trimmed text is trimmed. -/
theorem IsTrimmed.reverse
    (hTrimmed : t.IsTrimmed drop) :
    IsTrimmed drop t.reverse := by
  constructor
  · rw [List.head?_reverse]
    exact hTrimmed.last
  · rw [List.getLast?_reverse]
    exact hTrimmed.first

/- Exactly the trimmed texts are left alone by trimming. -/
theorem trim_eq_self_iff :
    t.trim drop = t ↔ t.IsTrimmed drop := by
  constructor
  · intro hSame
    rw [← hSame]
    exact isTrimmed_trim drop t
  · intro hTrimmed
    rw [trim, hTrimmed.dropWhile_eq,
      hTrimmed.reverse.dropWhile_eq, List.reverse_reverse]

/- Trimming does not see what it takes off the ends. -/
theorem trim_padded
    {before after : Text}
    (hBefore : ∀ c ∈ before, drop c = true)
    (hAfter : ∀ c ∈ after, drop c = true) :
    (before ++ t ++ after).trim drop = t.trim drop := by
  have hReverse :
      ∀ c ∈ after.reverse, drop c = true := by
    intro c hMem
    exact hAfter c (List.mem_reverse.mp hMem)
  have hEmpty : after.dropWhile drop = [] :=
    List.dropWhile_eq_nil_iff.mpr hAfter
  rw [trim, trim, List.append_assoc,
    List.dropWhile_append_of_pos hBefore,
    List.dropWhile_append]
  -- if nothing of the text is left, what follows goes as well
  split
  · rename_i hNone
    rw [hEmpty, List.isEmpty_iff.mp hNone]
  · rw [List.reverse_append,
      List.dropWhile_append_of_pos hReverse]

end Text

end ProseCheck

------------------------------------------------------------
-- Tidy Words
------------------------------------------------------------

namespace ProseCheck

/- Exactly the words without blank ends are left alone. -/
theorem strip_eq_self_iff
    (s : String) :
    strip s = s ↔ (Text.ofString s).IsTrimmed isBlank := by
  have hText :
      strip s = s ↔
        (Text.ofString s).strip = Text.ofString s := by
    rw [strip, Text.asString, Text.ofString,
      ← String.toList_inj, String.toList_ofList]
  rw [hText]
  exact Text.trim_eq_self_iff

/- What is left of a word has no blank ends. -/
theorem isTrimmed_strip
    (s : String) :
    (Text.ofString (strip s)).IsTrimmed isBlank := by
  have hText :
      Text.ofString (strip s) = (Text.ofString s).strip :=
    String.toList_ofList
  rw [hText]
  exact Text.isTrimmed_trim isBlank _

/- Nothing more is left out the second time. -/
theorem strip_strip
    (s : String) :
    strip (strip s) = strip s :=
  (strip_eq_self_iff _).mpr (isTrimmed_strip s)

/- Blank characters around a word are left out with its own. -/
theorem strip_padded
    (w : String)
    {before after : String}
    (hBefore : ∀ c ∈ before.toList, isBlank c = true)
    (hAfter : ∀ c ∈ after.toList, isBlank c = true) :
    strip (before ++ w ++ after) = strip w := by
  rw [strip, Text.ofString, String.toList_append,
    String.toList_append, Text.strip,
    Text.trim_padded hBefore hAfter]
  rfl

/- A word that holds something, and has no blank ends. -/
def IsTidy
    (w : String) : Prop :=
  w ≠ "" ∧ (Text.ofString w).IsTrimmed isBlank

/- The word between the blank ends of a string, if any. -/
def tidy?
    (s : String) : Option String :=
  if strip s = "" then none else some (strip s)

/- What stands between blank ends is tidy. -/
theorem isTidy_of_tidy?
    {s w : String}
    (hWord : tidy? s = some w) :
    IsTidy w := by
  unfold tidy? at hWord
  split at hWord
  · cases hWord
  · rename_i hText
    cases hWord
    exact ⟨hText, isTrimmed_strip s⟩

/- A tidy word is left alone. -/
theorem IsTidy.tidy?_eq
    {w : String}
    (hTidy : IsTidy w) :
    tidy? w = some w := by
  have hStrip : strip w = w :=
    (strip_eq_self_iff w).mpr hTidy.2
  rw [tidy?, hStrip, if_neg hTidy.1]

end ProseCheck

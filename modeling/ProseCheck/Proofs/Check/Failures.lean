import ProseCheck.Proofs.Check.Diagnosis

/-
  This file says when a document is diagnosed at all.  What
  comes of asking a tool is provided for if it is findings
  that can be read and reported, or a failure of the engine or
  the system, or one that is also a fault of a document.  Any
  other failure of a tool is passed on to the caller.  So are
  a number in a finding that is too large for an integer, and
  an offset beyond the text that is too long to be written.

  A document that cannot be checked, for a reason that is
  provided for, has no diagnostics.

  Main declarations:
    * `Document.Examined`
    * `IsForeseen`
    * `diagnose_returns_iff`
-/

------------------------------------------------------------
-- Examined Documents
------------------------------------------------------------

namespace ProseCheck

variable {τ : Type}

/-
  A tool is asked about the text that a document is read as,
  with some outcome.  There has to be a tool, the document has
  to be of a kind that is checked, and its text must not be
  blank.
-/
def Document.Examined
    (document : Document)
    (engine : Engine τ)
    (tool : Option τ)
    (annotated : AnnotatedText)
    (outcome : Except Failure (List Finding)) : Prop :=
  document.hasSupportedScheme = true ∧
    document.ReadAs annotated ∧
      ∃ state,
        tool = some state ∧
          Settles engine.check annotated.plainText state
            outcome

/-
  Whether a failure of a tool is one that a check recovers
  from.
-/
def Failure.isCaught
    (e : Failure) : Bool :=
  e.kind.isA .content || e.kind.isA .markup ||
    e.isTransient

/-
  Whether an outcome is one that is provided for, with some
  words to ignore and for some plain text.
-/
def IsForeseen
    (words : List String)
    (plain : Text) :
    Except Failure (List Finding) → Prop
  | .ok findings =>
      ∀ f ∈ findings,
        f.IsReadable ∧ f.IsReportable words plain
  | .error e => e.isCaught = true

/- A failure is recovered from if it is provided for. -/
theorem value_recover_tool
    (document : Document)
    (e : Failure) :
    (recover document (.tool e)).value =
      if e.isCaught = true then .ok []
      else .error (.tool e) := by
  unfold recover Failure.isCaught
  dsimp only
  cases e.kind.isA .content with
  | true => rfl
  | false =>
      cases e.kind.isA .markup with
      | true => rfl
      | false =>
          cases e.isTransient with
          | true => rfl
          | false => rfl

variable
  {engine : Engine τ}
  {tool : Option τ}
  {document : Document}
  {annotated : AnnotatedText}
  (jitter : Nat → Binary64)
  (words : List String)
  (encoding : Encoding)

/- A document that no tool is asked about has no diagnostics. -/
theorem diagnose_of_not_examined
    (hNever :
      ∀ annotated outcome,
        ¬ document.Examined engine tool annotated outcome) :
    (diagnose engine (.standard jitter) tool document words
      encoding).value.1 = .ok [] := by
  cases tool with
  | none => rfl
  | some state =>
      by_cases hScheme : document.hasSupportedScheme = true
      · apply diagnose_of_not_readAs
        intro annotated hRead
        rcases exists_settles engine.check
          annotated.plainText state with ⟨outcome, hSettles⟩
        exact hNever annotated outcome
          ⟨hScheme, hRead, state, rfl, hSettles⟩
      · rw [diagnose, if_neg hScheme]
        rfl

/- A failure gives no diagnostics, or is passed on. -/
theorem diagnose_of_failure
    {e : Failure}
    (hExamined :
      document.Examined engine tool annotated (.error e)) :
    (diagnose engine (.standard jitter) tool document words
      encoding).value.1 =
        if e.isCaught = true then .ok []
        else .error (.tool e) := by
  rcases hExamined with
    ⟨hScheme, hRead, state, rfl, hSettles⟩
  rw [← outcome_retry_iff jitter] at hSettles
  rw [diagnose_of_readAs engine _ state words encoding
    hScheme hRead, hSettles, readAnswer]
  exact value_recover_tool document e

/- Naming an error in another way does not make it a result. -/
theorem mapError_eq_ok_iff
    {α ε ε' : Type}
    {f : ε → ε'}
    {r : Except ε α}
    {a : α} :
    r.mapError f = .ok a ↔ r = .ok a := by
  cases r with
  | error e => simp [Except.mapError]
  | ok a => simp [Except.mapError]

/-
  A document that a tool is asked about is diagnosed if the
  outcome is provided for.
-/
theorem diagnose_ok_iff_isForeseen
    {outcome : Except Failure (List Finding)}
    (hExamined :
      document.Examined engine tool annotated outcome) :
    (∃ ds, (diagnose engine (.standard jitter) tool document
      words encoding).value.1 = .ok ds) ↔
        IsForeseen words annotated.plainText outcome := by
  cases outcome with
  | error e =>
      rw [diagnose_of_failure jitter words encoding hExamined,
        IsForeseen]
      by_cases hCaught : e.isCaught = true
      · rw [if_pos hCaught]
        exact iff_of_true ⟨[], rfl⟩ hCaught
      · rw [if_neg hCaught]
        refine iff_of_false ?_ hCaught
        rintro ⟨ds, hOk⟩
        cases hOk
  | ok findings =>
      rcases hExamined with
        ⟨hScheme, hRead, state, rfl, hSettles⟩
      rw [IsForeseen]
      by_cases hReadable : ∀ f ∈ findings, f.IsReadable
      · simp only [diagnose_of_readable engine state words
          jitter encoding hScheme hRead hSettles hReadable,
          mapError_eq_ok_iff]
        rw [buildDiagnostics_keptIssues_ok_iff hRead.covers]
        constructor
        · intro hReportable f hMem
          exact ⟨hReadable f hMem, hReportable f hMem⟩
        · intro hForeseen f hMem
          exact (hForeseen f hMem).2
      · refine iff_of_false ?_ ?_
        · push Not at hReadable
          rcases hReadable with ⟨f, hMem, hNot⟩
          rcases diagnose_of_not_readable engine state words
            jitter encoding hScheme hRead hSettles hMem
            hNot with ⟨e, hError⟩
          rw [hError]
          rintro ⟨ds, hOk⟩
          cases hOk
        · intro hForeseen
          exact hReadable
            (fun f hMem => (hForeseen f hMem).1)

end ProseCheck

------------------------------------------------------------
-- Engines that Fail
------------------------------------------------------------

namespace ProseCheck

/- An engine whose tools always fail in the same way. -/
def Engine.failing
    (e : Failure) : Engine Unit where
  create := fun _ _ => .ok ()
  check := fun _ _ => (.error e, ())

/- Every call fails in the same way. -/
theorem nthCall_failing
    (e : Failure)
    (t : Text)
    (n : Nat) :
    nthCall (Engine.failing e).check t n () =
      (.error e, ()) := by
  induction n with
  | zero => rfl
  | succ n ih => exact ih

/- Asking about a text comes to nothing but that failure. -/
theorem settles_failing
    {e : Failure}
    {t : Text}
    {outcome : Except Failure (List Finding)}
    (hSettles :
      Settles (Engine.failing e).check t () outcome) :
    outcome = .error e := by
  rcases hSettles with ⟨k, _, _, _, hOutcome⟩
  rw [nthCall_failing] at hOutcome
  exact hOutcome.symm

/- The line is asked about, and this fails. -/
theorem examined_failing
    (e : Failure) :
    typoLine.Examined (Engine.failing e) (some ())
      (.identity typoLine.text) (.error e) := by
  rcases exists_settles (Engine.failing e).check
    (AnnotatedText.identity typoLine.text).plainText () with
    ⟨outcome, hSettles⟩
  rw [settles_failing hSettles] at hSettles
  exact ⟨by decide, typoLine_readAs, (), rfl, hSettles⟩

/- The line is asked about in no other way. -/
theorem Document.Examined.eq_failing
    {e : Failure}
    {annotated : AnnotatedText}
    {outcome : Except Failure (List Finding)}
    (hExamined :
      typoLine.Examined (Engine.failing e) (some ())
        annotated outcome) :
    outcome = .error e := by
  rcases hExamined with ⟨_, _, _, _, hSettles⟩
  exact settles_failing hSettles

end ProseCheck

------------------------------------------------------------
-- Diagnosed Documents
------------------------------------------------------------

namespace ProseCheck

variable {τ : Type}

/-
  A document is diagnosed exactly if whatever comes of asking
  the tool is provided for.  It has no diagnostics then if
  the tool gave no findings.
-/
theorem diagnose_returns_iff
    (engine : Engine τ)
    (tool : Option τ)
    (document : Document)
    (jitter : Nat → Binary64)
    (words : List String)
    (encoding : Encoding) :
    let r :=
      (diagnose engine (.standard jitter) tool document words
        encoding).value.1
    ((∃ ds, r = .ok ds) ↔
        ∀ annotated outcome,
          document.Examined engine tool annotated outcome →
            IsForeseen words annotated.plainText outcome) ∧
      ((∀ annotated findings,
          ¬ document.Examined engine tool annotated
            (.ok findings)) →
        ∀ ds, r = .ok ds → ds = []) := by
  intro r
  have hForeseen :
      ∀ annotated outcome,
        document.Examined engine tool annotated outcome →
          ((∃ ds, r = .ok ds) ↔
            IsForeseen words annotated.plainText outcome) :=
    fun _ _ hExamined =>
      diagnose_ok_iff_isForeseen jitter words encoding
        hExamined
  by_cases hNever :
      ∀ annotated outcome,
        ¬ document.Examined engine tool annotated outcome
  · have hEmpty : r = .ok [] :=
      diagnose_of_not_examined jitter words encoding hNever
    refine ⟨iff_of_true ⟨[], hEmpty⟩ ?_, ?_⟩
    · intro annotated outcome hExamined
      exact absurd hExamined (hNever annotated outcome)
    · intro _ ds hOk
      exact (Except.ok.inj (hEmpty.symm.trans hOk)).symm
  · push Not at hNever
    rcases hNever with ⟨annotated, outcome, hExamined⟩
    refine ⟨⟨?_, ?_⟩, ?_⟩
    · intro hOk other result hOther
      exact (hForeseen other result hOther).mp hOk
    · intro hAll
      exact (hForeseen annotated outcome hExamined).mpr
        (hAll annotated outcome hExamined)
    · intro hNone ds hOk
      cases outcome with
      | ok findings =>
          exact absurd hExamined (hNone annotated findings)
      | error e =>
          have hResult : r = _ :=
            diagnose_of_failure jitter words encoding
              hExamined
          rw [hOk] at hResult
          split at hResult
          · exact Except.ok.inj hResult
          · cases hResult

/-
  A tool whose connection always times out.  The line has no
  diagnostics.
-/
theorem diagnose_returns_iff_timeout :
    (diagnose
      (Engine.failing ⟨.timeout, "timed out"⟩)
      (.standard (fun _ => Binary64.ofNat 1))
      (some ()) typoLine [] .utf16).value.1 = .ok [] := by
  rcases diagnose_returns_iff
      (Engine.failing ⟨.timeout, "timed out"⟩) (some ())
      typoLine (fun _ => Binary64.ofNat 1) [] .utf16 with
    ⟨hReturns, hEmpty⟩
  have hForeseen :
      ∀ annotated outcome,
        typoLine.Examined
          (Engine.failing ⟨.timeout, "timed out"⟩) (some ())
            annotated outcome →
          IsForeseen [] annotated.plainText outcome := by
    intro annotated outcome hExamined
    rw [hExamined.eq_failing]
    rfl
  have hNone :
      ∀ annotated findings,
        ¬ typoLine.Examined
          (Engine.failing ⟨.timeout, "timed out"⟩) (some ())
            annotated (.ok findings) := by
    intro annotated findings hExamined
    cases hExamined.eq_failing
  rcases hReturns.mpr hForeseen with ⟨ds, hOk⟩
  rw [hOk, hEmpty hNone ds hOk]

/-
  A tool that fails with an error of values.  This is an
  ordinary failure, but the line is not diagnosed.
-/
theorem diagnose_raises_value :
    let e : Failure := ⟨.value, "stub ValueError"⟩
    e.kind ≠ .interrupt ∧
      ¬ ∃ ds,
        (diagnose (Engine.failing e)
          (.standard (fun _ => Binary64.ofNat 1))
          (some ()) typoLine [] .utf16).value.1 = .ok ds := by
  intro e
  refine ⟨by decide, ?_⟩
  rintro ⟨ds, hOk⟩
  rw [diagnose_of_failure _ _ _ (examined_failing e)] at hOk
  cases hOk

end ProseCheck

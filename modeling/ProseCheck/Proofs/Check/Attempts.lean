import Mathlib.Tactic.Common
import ProseCheck.Check.Retry

/-
  This file says how often something is tried.  The attempts
  are calls with the same argument, each in the state that
  the one before it left.  They go on as long as they fail
  for a passing reason and there are any left, and the last
  of them counts.

  Main declarations:
    * `nthCall`
    * `IsPassing`
    * `Settles`
    * `retryFrom_of_passing`
    * `outcome_retry_iff`
-/

------------------------------------------------------------
-- Calls
------------------------------------------------------------

namespace ProseCheck

variable {σ α β : Type}

/-
  What comes of a call after a number of other ones, and the
  state that it leaves.  All of them have the same argument.
-/
def nthCall
    (f : σ → α → Except Failure β × σ)
    (arg : α) : Nat → σ → Except Failure β × σ
  | 0, s => f s arg
  | n + 1, s => nthCall f arg n (f s arg).2

/- Whether an outcome is a failure that may soon be gone. -/
def IsPassing
    (outcome : Except Failure β) : Prop :=
  ∃ e, outcome = .error e ∧ e.isTransient = true

/- A result is no failure. -/
theorem not_isPassing_ok
    (b : β) :
    ¬ IsPassing (.ok b : Except Failure β) := by
  rintro ⟨e, hError, _⟩
  contradiction

/- A failure passes if its kind does. -/
@[simp]
theorem isPassing_error_iff
    (e : Failure) :
    IsPassing (.error e : Except Failure β) ↔
      e.isTransient = true := by
  constructor
  · rintro ⟨e', hError, hTransient⟩
    cases hError
    exact hTransient
  · intro hTransient
    exact ⟨e, rfl, hTransient⟩

/- The first calls of some that a run is limited to. -/
theorem exists_last_call
    (f : σ → α → Except Failure β × σ)
    (arg : α)
    (left : Nat)
    (s : σ) :
    ∃ k ≤ left,
      (∀ i < k, IsPassing (nthCall f arg i s).1) ∧
        (k = left ∨ ¬ IsPassing (nthCall f arg k s).1) := by
  induction left generalizing s with
  | zero =>
      refine ⟨0, Nat.le_refl 0, ?_, Or.inl rfl⟩
      intro i hBefore
      exact absurd hBefore (Nat.not_lt_zero i)
  | succ left ih =>
      by_cases hPassing : IsPassing (nthCall f arg 0 s).1
      · rcases ih (f s arg).2 with
          ⟨k, hLeft, hBefore, hLast⟩
        refine ⟨k + 1, Nat.succ_le_succ hLeft, ?_, ?_⟩
        · intro i hLt
          cases i with
          | zero => exact hPassing
          | succ i => exact hBefore i (Nat.lt_of_succ_lt_succ hLt)
        · rcases hLast with hEnd | hOther
          · exact Or.inl (congrArg (· + 1) hEnd)
          · exact Or.inr hOther
      · refine ⟨0, Nat.zero_le _, ?_, Or.inr hPassing⟩
        intro i hBefore
        exact absurd hBefore (Nat.not_lt_zero i)

end ProseCheck

------------------------------------------------------------
-- Runs of Attempts
------------------------------------------------------------

namespace ProseCheck

variable {ν σ α β : Type} [Mul ν] [Min ν] [NatCast ν]

/- A run ends where no other attempt follows. -/
theorem retryFrom_of_last
    (b : Backoff ν)
    (f : σ → α → Except Failure β × σ)
    (arg : α)
    (attempt : Nat)
    {left : Nat}
    {s : σ}
    (hLast : left = 0 ∨ ¬ IsPassing (f s arg).1) :
    retryFrom b f arg attempt left s =
      ⟨[(f s arg).1], [], (f s arg).2⟩ := by
  cases left with
  | zero => rfl
  | succ left =>
      have hHere := hLast.resolve_left (Nat.succ_ne_zero left)
      rw [retryFrom]
      split
      · rename_i b s' hOk
        rw [hOk]
      · rename_i e s' hError
        rw [hError, isPassing_error_iff] at hHere
        rw [if_neg hHere, hError]

/- After a failure that passes a run starts once more. -/
theorem retryFrom_of_failure
    (b : Backoff ν)
    (f : σ → α → Except Failure β × σ)
    (arg : α)
    (attempt left : Nat)
    {s : σ}
    {e : Failure}
    (hError : (f s arg).1 = .error e)
    (hTransient : e.isTransient = true) :
    retryFrom b f arg attempt (left + 1) s =
      (retryFrom b f arg (attempt + 1) left
        (f s arg).2).after e (b.delay attempt) := by
  have hCall : f s arg = (.error e, (f s arg).2) :=
    Prod.ext hError rfl
  rw [retryFrom, hCall]
  dsimp only
  rw [if_pos hTransient]

/-
  A run of attempts ends with the first one that does not
  fail for a passing reason, or else with the last one that
  is allowed.  There is one pause before each attempt but
  the first.
-/
theorem retryFrom_of_passing
    (b : Backoff ν)
    (f : σ → α → Except Failure β × σ)
    (arg : α)
    {k left : Nat}
    (hLeft : k ≤ left)
    (attempt : Nat)
    {s : σ}
    (hBefore : ∀ i < k, IsPassing (nthCall f arg i s).1)
    (hLast : k = left ∨ ¬ IsPassing (nthCall f arg k s).1) :
    retryFrom b f arg attempt left s =
      { outcomes :=
          (List.range (k + 1)).map
            (fun i => (nthCall f arg i s).1)
        delays :=
          (List.range k).map (fun i => b.delay (attempt + i))
        state := (nthCall f arg k s).2 } := by
  induction k generalizing left attempt s with
  | zero =>
      have hHere : left = 0 ∨ ¬ IsPassing (f s arg).1 :=
        hLast.imp_left Eq.symm
      rw [retryFrom_of_last b f arg attempt hHere]
      rfl
  | succ k ih =>
      cases left with
      | zero => exact absurd hLeft (Nat.not_succ_le_zero k)
      | succ left =>
          rcases hBefore 0 (Nat.succ_pos k) with
            ⟨e, hError, hTransient⟩
          have hFirst : (f s arg).1 = .error e := hError
          have hRest :=
            ih (Nat.le_of_succ_le_succ hLeft) (attempt + 1)
              (s := (f s arg).2)
              (fun i hLt => hBefore (i + 1)
                (Nat.succ_lt_succ hLt))
              (hLast.imp_left Nat.succ.inj)
          rw [retryFrom_of_failure b f arg attempt left hFirst
              hTransient,
            hRest, RetryRun.after,
            List.range_succ_eq_map (n := k + 1),
            List.range_succ_eq_map (n := k)]
          simp [nthCall, hFirst, Function.comp_def,
            Nat.add_right_comm, Nat.add_assoc]

/- The outcome of a run is that of its last attempt. -/
theorem outcome_retryFrom
    (b : Backoff ν)
    (f : σ → α → Except Failure β × σ)
    (arg : α)
    {k left : Nat}
    (hLeft : k ≤ left)
    (attempt : Nat)
    {s : σ}
    (hBefore : ∀ i < k, IsPassing (nthCall f arg i s).1)
    (hLast : k = left ∨ ¬ IsPassing (nthCall f arg k s).1) :
    (retryFrom b f arg attempt left s).outcome =
      (nthCall f arg k s).1 := by
  rw [retryFrom_of_passing b f arg hLeft attempt hBefore hLast,
    RetryRun.outcome, List.range_succ, List.map_append,
    List.map_singleton, List.getLast?_concat]
  rfl

end ProseCheck

------------------------------------------------------------
-- Settled Outcomes
------------------------------------------------------------

namespace ProseCheck

variable {σ α β : Type}

/-
  What comes of something that is tried up to three times,
  as is usual: the outcome of the first call that does not
  fail for a passing reason, or else of the third one.
-/
def Settles
    (f : σ → α → Except Failure β × σ)
    (arg : α)
    (s : σ)
    (outcome : Except Failure β) : Prop :=
  ∃ k ≤ 2,
    (∀ i < k, IsPassing (nthCall f arg i s).1) ∧
      (k = 2 ∨ ¬ IsPassing (nthCall f arg k s).1) ∧
      (nthCall f arg k s).1 = outcome

/- Whatever is tried is settled in the end. -/
theorem exists_settles
    (f : σ → α → Except Failure β × σ)
    (arg : α)
    (s : σ) :
    ∃ outcome, Settles f arg s outcome := by
  rcases exists_last_call f arg 2 s with
    ⟨k, hLeft, hBefore, hLast⟩
  exact ⟨_, k, hLeft, hBefore, hLast, rfl⟩

/- Something that works at once is settled. -/
theorem settles_of_ok
    {f : σ → α → Except Failure β × σ}
    {arg : α}
    {s : σ}
    {b : β}
    (hOk : (f s arg).1 = .ok b) :
    Settles f arg s (.ok b) := by
  refine ⟨0, Nat.zero_le 2, ?_, Or.inr ?_, hOk⟩
  · intro i hBefore
    exact absurd hBefore (Nat.not_lt_zero i)
  · rw [nthCall, hOk]
    exact not_isPassing_ok b

/- A run with the usual pauses has the settled outcome. -/
theorem outcome_retry_iff
    (jitter : Nat → Binary64)
    (f : σ → α → Except Failure β × σ)
    (s : σ)
    (arg : α)
    (outcome : Except Failure β) :
    (retry (Backoff.standard jitter) f s arg).outcome =
        outcome ↔
      Settles f arg s outcome := by
  have hTwice :
      retry (Backoff.standard jitter) f s arg =
        retryFrom (Backoff.standard jitter) f arg 0 2 s := by
    rw [retry, if_neg (by simp [Backoff.standard])]
    rfl
  rw [hTwice]
  constructor
  · intro hOutcome
    rcases exists_last_call f arg 2 s with
      ⟨k, hLeft, hBefore, hLast⟩
    rw [outcome_retryFrom _ f arg hLeft 0 hBefore hLast]
      at hOutcome
    exact ⟨k, hLeft, hBefore, hLast, hOutcome⟩
  · rintro ⟨k, hLeft, hBefore, hLast, hOutcome⟩
    rw [outcome_retryFrom _ f arg hLeft 0 hBefore hLast]
    exact hOutcome

end ProseCheck

import ProseCheck.Effect

/-
  This file repeats what fails for a passing reason.  The
  pauses grow by a factor of two each time, are varied a
  little, and have an upper limit.

  Key definitions include:
    * `Backoff`
    * `Backoff.delay`
    * `RetryRun`
    * `retry`
-/

------------------------------------------------------------
-- Pauses
------------------------------------------------------------

namespace ProseCheck

/-
  How often something is tried again, and after which pauses.
  The numbers for pauses may be of any type that has them.
-/
structure Backoff
    (ν : Type) where
  retries : Int
  base : ν
  limit : ν
  jitter : Nat → ν

namespace Backoff

variable {ν : Type} [Mul ν] [Min ν] [NatCast ν]

/- The pause after a number of attempts before the last one. -/
def delay
    (b : Backoff ν)
    (attempt : Nat) : ν :=
  min
    (b.base * (Nat.pow 2 attempt : ν) * b.jitter attempt)
    b.limit

end Backoff

end ProseCheck

------------------------------------------------------------
-- Runs
------------------------------------------------------------

namespace ProseCheck

/-
  What came of the attempts: the outcome of each, the pauses
  between them, and the state that the last one left.
-/
structure RetryRun
    (ν σ β : Type) where
  outcomes : List (Except Failure β)
  delays : List ν
  state : σ

namespace RetryRun

variable {ν σ β : Type}

/- The failure of a run without any attempt. -/
def neverTried : Failure :=
  ⟨.runtime,
    "Retry logic completed without returning or raising"⟩

/- The outcome of a run is that of its last attempt. -/
def outcome
    (r : RetryRun ν σ β) : Except Failure β :=
  r.outcomes.getLast?.getD (.error neverTried)

/- A run before which there was another failed attempt. -/
def after
    (failure : Failure)
    (delay : ν)
    (r : RetryRun ν σ β) : RetryRun ν σ β :=
  ⟨.error failure :: r.outcomes, delay :: r.delays, r.state⟩

end RetryRun

variable {ν σ α β : Type} [Mul ν] [Min ν] [NatCast ν]

/-
  Try something after a number of attempts, and again up to
  `left` times as long as it fails for a passing reason.
-/
def retryFrom
    (b : Backoff ν)
    (f : σ → α → Except Failure β × σ)
    (arg : α)
    (attempt : Nat) : Nat → σ → RetryRun ν σ β
  | 0, s =>
      let r := f s arg
      ⟨[r.1], [], r.2⟩
  | left + 1, s =>
      match f s arg with
      | (.ok a, s) => ⟨[.ok a], [], s⟩
      | (.error e, s) =>
          if e.isTransient then
            (retryFrom b f arg (attempt + 1) left s).after e
              (b.delay attempt)
          else
            ⟨[.error e], [], s⟩

/- Try something as often as it takes and is allowed. -/
def retry
    (b : Backoff ν)
    (f : σ → α → Except Failure β × σ)
    (s : σ)
    (arg : α) : RetryRun ν σ β :=
  if b.retries < 0 then ⟨[], [], s⟩
  else retryFrom b f arg 0 b.retries.toNat s

end ProseCheck

------------------------------------------------------------
-- Effects
------------------------------------------------------------

namespace ProseCheck

/- What is reported before a pause. -/
def retryMessage
    (attempt : Nat)
    (e : Failure)
    (delay : Binary64) : String :=
  "Language check attempt " ++ toString attempt ++
    " failed (transient error: " ++ e.kind.name ++
    "); retrying in " ++ delay.fixed 1 ++ " second(s)..."

/- What is reported when there are no attempts left. -/
def giveUpMessage
    (attempts : Nat)
    (e : Failure) : String :=
  "Language check failed after " ++ toString attempts ++
    " attempt(s): " ++ e.message

/- What is done about an attempt, with or without a pause. -/
def attemptEffects
    {β : Type}
    (attempt : Nat)
    (outcome : Except Failure β)
    (delay : Option Binary64) : List Effect :=
  match outcome, delay with
  | .error e, some d =>
      [.message .warning (retryMessage attempt e d), .pause d]
  | .error e, none =>
      if e.isTransient then
        [.message .error (giveUpMessage attempt e)]
      else
        []
  | .ok _, _ => []

/-
  What is done in the course of attempts, each of which has
  the effects `call`.  The first of them has a number.
-/
def runEffects
    {β : Type}
    (call : List Effect)
    (attempt : Nat)
    (delays : List Binary64) :
    List (Except Failure β) → List Effect
  | [] => []
  | outcome :: outcomes =>
      call ++ attemptEffects attempt outcome delays.head? ++
        runEffects call (attempt + 1) (delays.drop 1)
          outcomes

/- What is done in the course of a run. -/
def RetryRun.effects
    {σ β : Type}
    (r : RetryRun Binary64 σ β)
    (call : List Effect) : List Effect :=
  runEffects call 1 r.delays r.outcomes

/- The pauses that are usual between checks. -/
def Backoff.standard
    (jitter : Nat → Binary64) : Backoff Binary64 :=
  { retries := 2
    base := Binary64.ofDecimal false 5 (-1)
    limit := Binary64.ofNat 5
    jitter }

end ProseCheck

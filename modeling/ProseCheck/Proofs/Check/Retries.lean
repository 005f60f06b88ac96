import Mathlib.Algebra.Order.Ring.Rat
import Mathlib.Tactic.NormNum
import ProseCheck.Proofs.Check.Failures

/-
  This file says what is called and what is waited for when
  something is tried again.  There is a first call, and after
  each failure that may pass a pause and another call, until
  a call does not fail so or no attempt is left.  All calls
  have the same argument, and nobody waits behind the last.

  A document is checked in such a run.  The tool is asked
  about the plain text of it, again and again, and about
  nothing else.  Where there is nothing to check, it is not
  asked at all.

  Main declarations:
    * `watch`
    * `RetryRun.EndsAt`
    * `retry_endsAt`
    * `Effect.isMove`
    * `diagnose_asks`
    * `retry_law`
-/

------------------------------------------------------------
-- Watched Calls
------------------------------------------------------------

namespace ProseCheck

variable {σ α β : Type}

/-
  Calls that are watched.  Their arguments are written down
  next to the state, oldest first.
-/
def watch
    (f : σ → α → Except Failure β × σ) :
    σ × List α → α → Except Failure β × (σ × List α) :=
  fun s arg => ((f s.1 arg).1, (f s.1 arg).2, s.2 ++ [arg])

/- Calls are no others because they are watched. -/
theorem nthCall_watch
    (f : σ → α → Except Failure β × σ)
    (arg : α)
    (n : Nat)
    (s : σ)
    (met : List α) :
    nthCall (watch f) arg n (s, met) =
      ((nthCall f arg n s).1, (nthCall f arg n s).2,
        met ++ List.replicate (n + 1) arg) := by
  induction n generalizing s met with
  | zero => rfl
  | succ n ih =>
      have hNext :
          nthCall (watch f) arg (n + 1) (s, met) =
            nthCall (watch f) arg n
              ((f s arg).2, met ++ [arg]) :=
        rfl
      rw [hNext, ih, List.append_assoc]
      rfl

end ProseCheck

------------------------------------------------------------
-- Runs of Calls
------------------------------------------------------------

namespace ProseCheck

variable {ν σ α β : Type} [Mul ν] [Min ν] [NatCast ν]

/-
  A run of watched calls that ends at the call of a number,
  where the first call has the number zero.  The calls up to
  this one are made, all with the same argument, and the last
  one counts.  Before each call but the first there is one
  pause: twice as long every time, varied, and limited.
-/
structure RetryRun.EndsAt
    (b : Backoff ν)
    (call : Nat → Except Failure β)
    (arg : α)
    (last : Nat)
    (run : RetryRun ν (σ × List α) β) : Prop where
  outcomes_eq :
    run.outcomes = (List.range (last + 1)).map call
  isTried : run.outcomes ≠ []
  outcome_eq : run.outcome = call last
  arguments_eq :
    run.state.2 = List.replicate (last + 1) arg
  delays_eq :
    run.delays =
      (List.range last).map
        (fun i =>
          min (b.base * ((2 ^ i : Nat) : ν) * b.jitter i)
            b.limit)

variable
  (b : Backoff ν)
  (f : σ → α → Except Failure β × σ)
  (arg : α)

/- A run with a number of retries, call by call. -/
theorem retry_of_passing
    {n last : Nat}
    (hRetries : b.retries = n)
    (hLast : last ≤ n)
    {s : σ}
    (hBefore : ∀ i < last, IsPassing (nthCall f arg i s).1)
    (hEnd :
      last = n ∨ ¬ IsPassing (nthCall f arg last s).1) :
    retry b f s arg =
      { outcomes :=
          (List.range (last + 1)).map
            (fun i => (nthCall f arg i s).1)
        delays := (List.range last).map b.delay
        state := (nthCall f arg last s).2 } := by
  rw [retry, hRetries, if_neg (by omega), Int.toNat_natCast,
    retryFrom_of_passing b f arg hLast 0 hBefore hEnd]
  simp only [Nat.zero_add]

/-
  A run of watched calls ends at the first call that does not
  fail for a passing reason, or else at the last one allowed.
-/
theorem retry_endsAt
    {n last : Nat}
    (hRetries : b.retries = n)
    (hLast : last ≤ n)
    {s : σ}
    (hBefore : ∀ i < last, IsPassing (nthCall f arg i s).1)
    (hEnd :
      last = n ∨ ¬ IsPassing (nthCall f arg last s).1) :
    (retry b (watch f) (s, []) arg).EndsAt b
      (fun i => (nthCall f arg i s).1) arg last := by
  have hSame :
      ∀ i, (nthCall (watch f) arg i (s, [])).1 =
        (nthCall f arg i s).1 := by
    intro i
    rw [nthCall_watch]
  have hRun :=
    retry_of_passing b (watch f) arg hRetries hLast
      (s := (s, []))
      (fun i hLt => (hSame i).symm ▸ hBefore i hLt)
      (hEnd.imp_right (fun hOther => (hSame last).symm ▸ hOther))
  simp only [nthCall_watch, List.nil_append] at hRun
  rw [hRun]
  refine ⟨rfl, by simp, ?_, rfl, rfl⟩
  rw [RetryRun.outcome, List.range_succ, List.map_append,
    List.map_singleton, List.getLast?_concat]
  rfl

end ProseCheck

------------------------------------------------------------
-- Calls and Pauses among Effects
------------------------------------------------------------

namespace ProseCheck

/- Whether an effect is a call of a tool, or a pause. -/
def Effect.isMove : Effect → Bool
  | .check _ => true
  | .pause _ => true
  | _ => false

/- The calls and the pauses among effects, in their order. -/
def moves
    (es : List Effect) : List Effect :=
  es.filter Effect.isMove

@[simp]
theorem moves_nil : moves [] = [] := rfl

@[simp]
theorem moves_append
    (es fs : List Effect) :
    moves (es ++ fs) = moves es ++ moves fs :=
  List.filter_append es fs

/- What is written to the log is no move. -/
@[simp]
theorem moves_map_log
    (records : List LogRecord) :
    moves (records.map Effect.log) = [] := by
  rw [moves, List.filter_eq_nil_iff]
  intro e hMem
  rcases List.mem_map.mp hMem with ⟨record, _, rfl⟩
  simp [Effect.isMove]

/-
  The moves of a run: a call about a plain text, and another
  one behind each of the pauses.
-/
def callsAround
    (plain : Text)
    (delays : List Binary64) : List Effect :=
  .check plain ::
    delays.flatMap (fun d => [.pause d, .check plain])

variable {β : Type}

/-
  In the course of attempts, of which all but the last one
  fail, there is one pause between two calls, and no other.
-/
theorem moves_runEffects
    (plain : Text)
    (attempt : Nat)
    {delays : List Binary64}
    {outcomes : List (Except Failure β)}
    (hLength : outcomes.length = delays.length + 1)
    (hFailed :
      ∀ outcome ∈ outcomes.dropLast,
        ∃ e, outcome = .error e) :
    moves
        (runEffects [.check plain] attempt delays outcomes) =
      callsAround plain delays := by
  induction delays generalizing attempt outcomes with
  | nil =>
      obtain ⟨outcome, rfl⟩ :=
        List.length_eq_one_iff.mp hLength
      have hNone :
          moves (attemptEffects attempt outcome none) = [] := by
        unfold attemptEffects
        cases outcome with
        | ok a => rfl
        | error e =>
            dsimp only
            split
            · rfl
            · rfl
      simp only [runEffects, List.head?_nil, moves_append,
        hNone]
      rfl
  | cons d ds ih =>
      cases outcomes with
      | nil => cases hLength
      | cons outcome rest =>
          have hRest : rest.length = ds.length + 1 :=
            Nat.succ.inj hLength
          have hSome : rest ≠ [] := by
            intro hNone
            rw [hNone] at hRest
            cases hRest
          rw [List.dropLast_cons_of_ne_nil hSome] at hFailed
          rcases hFailed outcome List.mem_cons_self with
            ⟨e, rfl⟩
          have hLater := ih (attempt + 1) hRest
            (fun o hMem =>
              hFailed o (List.mem_cons_of_mem _ hMem))
          rw [runEffects, moves_append, List.drop_one,
            List.tail_cons, hLater]
          rfl

/- A run makes its calls with its pauses in between. -/
theorem moves_effects
    {σ α : Type}
    (b : Backoff Binary64)
    (f : σ → α → Except Failure β × σ)
    (arg : α)
    {n last : Nat}
    (hRetries : b.retries = n)
    (hLast : last ≤ n)
    {s : σ}
    (hBefore : ∀ i < last, IsPassing (nthCall f arg i s).1)
    (hEnd :
      last = n ∨ ¬ IsPassing (nthCall f arg last s).1)
    (plain : Text) :
    moves ((retry b f s arg).effects [.check plain]) =
      callsAround plain ((List.range last).map b.delay) := by
  rw [retry_of_passing b f arg hRetries hLast hBefore hEnd]
  apply moves_runEffects plain 1
  · simp
  · intro outcome hMem
    rw [List.range_succ, List.map_append, List.map_singleton,
      List.dropLast_concat] at hMem
    rcases List.mem_map.mp hMem with ⟨i, hIndex, rfl⟩
    rcases hBefore i (List.mem_range.mp hIndex) with
      ⟨e, hError, _⟩
    exact ⟨e, hError⟩

end ProseCheck

------------------------------------------------------------
-- Calls for a Document
------------------------------------------------------------

namespace ProseCheck

variable {τ : Type}

/-
  An engine whose tools are watched: the texts that a tool is
  asked about are written down next to its state.
-/
def Engine.watched
    (engine : Engine τ) : Engine (τ × List Text) where
  create := fun serial request =>
    (engine.create serial request).map (·, [])
  check := watch engine.check
  closable := engine.closable

/- The records of a value are no moves. -/
@[simp]
theorem moves_logged
    {α : Type}
    (x : Recorded LogRecord α) :
    moves x.logged.entries = [] :=
  moves_map_log x.entries

/- Nothing is called or waited for to recover from an error. -/
theorem moves_recover
    (document : Document)
    (e : CheckError) :
    moves (recover document e).entries = [] := by
  unfold recover
  split
  · rfl
  · rfl
  · split
    · rfl
    split
    · rfl
    split
    · rfl
    · rfl
  · rfl
  · rfl

variable
  (engine : Engine τ)
  (backoff : Backoff Binary64)
  (tool : τ)
  (words : List String)
  {document : Document}
  {annotated : AnnotatedText}

/- A check of a plain text leaves the tool as its run does. -/
theorem state_checkPlain
    (plain : Text) :
    (checkPlain engine backoff tool plain words).value.2 =
      (retry backoff engine.check tool plain).state := by
  simp only [checkPlain, Recorded.value_bind]
  cases (retry backoff engine.check tool plain).outcome with
  | error e => rfl
  | ok findings =>
      simp only [Recorded.value_bind]
      cases (readFindings plain.length findings).logged.value
      all_goals rfl

/- A check of a plain text makes the moves of its run. -/
theorem moves_checkPlain
    (plain : Text) :
    moves (checkPlain engine backoff tool plain words).entries =
      moves
        ((retry backoff engine.check tool plain).effects
          [.check plain]) := by
  simp only [checkPlain, Recorded.entries_bind, moves_append]
  apply List.append_right_eq_self.mpr
  cases (retry backoff engine.check tool plain).outcome with
  | error e => rfl
  | ok findings =>
      simp only [Recorded.entries_bind, moves_append,
        moves_logged, List.nil_append]
      cases (readFindings plain.length findings).logged.value
      all_goals rfl

/- A document with a text to check is checked by a run. -/
theorem checkDocument_run
    (hRead : document.ReadAs annotated) :
    let run :=
      retry backoff engine.check tool annotated.plainText
    let checked :=
      checkDocument engine backoff tool document words
    checked.value.2 = run.state ∧
      moves checked.entries =
        moves (run.effects [.check annotated.plainText]) := by
  have hChecked :
      checkDocument engine backoff tool document words =
        (do
          let found ←
            checkPlain engine backoff tool
              annotated.plainText words
          return (found.1.map (Report.mk document annotated),
            found.2)) := by
    rw [checkDocument, hRead.selected]
    dsimp only
    rw [hRead.notBlank, if_neg Bool.false_ne_true]
  intro run checked
  dsimp only [checked, run]
  rw [hChecked, ← state_checkPlain engine backoff tool words,
    ← moves_checkPlain engine backoff tool words]
  refine ⟨rfl, ?_⟩
  rw [Recorded.entries_bind, moves_append]
  exact List.append_nil _

/- A document without a text to check is left alone. -/
theorem checkDocument_idle
    (hRead : ∀ annotated, ¬ document.ReadAs annotated) :
    let checked :=
      checkDocument engine backoff tool document words
    checked.value.2 = tool ∧ checked.entries = [] := by
  intro checked
  dsimp only [checked]
  unfold checkDocument
  split
  · exact ⟨rfl, rfl⟩
  · rename_i annotated hSelect
    have hBlank : annotated.plainText.strip.isEmpty = true := by
      rw [← Bool.not_eq_false]
      exact fun hText => hRead annotated ⟨hSelect, hText⟩
    dsimp only
    rw [if_pos hBlank]
    exact ⟨rfl, rfl⟩

/- What is made of a report calls nobody. -/
theorem diagnose_checkDocument
    (encoding : Encoding)
    (hScheme : document.hasSupportedScheme = true) :
    let checked :=
      checkDocument engine backoff tool document words
    let diagnosed :=
      diagnose engine backoff (some tool) document words
        encoding
    diagnosed.value.2 = some checked.value.2 ∧
      moves diagnosed.entries = moves checked.entries := by
  intro checked diagnosed
  dsimp only [checked, diagnosed]
  simp only [diagnose, hScheme, if_true, diagnoseWith,
    Recorded.value_bind, Recorded.entries_bind, moves_append]
  cases (checkDocument engine backoff tool document
      words).value.1 with
  | ok report =>
      simp
  | error e =>
      simp [moves_recover]

end ProseCheck

------------------------------------------------------------
-- The Law
------------------------------------------------------------

namespace ProseCheck

/- The texts that a watched tool, if any, was asked about. -/
def textsAsked
    {τ : Type}
    (tool : Option (τ × List Text)) : List Text :=
  (tool.map (·.2)).getD []

/- Whether there is no tool, or nothing to ask one about. -/
def Document.IsPassedOver
    {τ : Type}
    (document : Document)
    (tool : Option τ) : Prop :=
  tool = none ∨ document.hasSupportedScheme = false ∨
    (∃ e, selectText document.text document.languageId =
      .error e) ∨
    ∃ annotated,
      selectText document.text document.languageId =
          .ok annotated ∧
        annotated.plainText.strip.isEmpty = true

variable
  {τ : Type}
  (engine : Engine τ)
  (backoff : Backoff Binary64)
  (words : List String)
  (encoding : Encoding)
  {document : Document}

/- Where there is nothing to ask about, nobody is asked. -/
theorem diagnose_of_isPassedOver
    {tool : Option τ}
    (hPassed : document.IsPassedOver tool) :
    let diagnosed :=
      diagnose engine backoff tool document words encoding
    diagnosed.value.2 = tool ∧
      moves diagnosed.entries = [] := by
  intro diagnosed
  dsimp only [diagnosed]
  cases tool with
  | none => exact ⟨rfl, rfl⟩
  | some state =>
      by_cases hScheme : document.hasSupportedScheme = true
      · have hRead :
            ∀ annotated, ¬ document.ReadAs annotated := by
          rintro annotated ⟨hSelect, hText⟩
          rcases hPassed with
            hNone | hOther | ⟨e, hError⟩ | ⟨a, hOk, hBlank⟩
          · cases hNone
          · rw [hScheme] at hOther
            cases hOther
          · rw [hSelect] at hError
            cases hError
          · rw [hSelect] at hOk
            cases hOk
            rw [hText] at hBlank
            cases hBlank
        rcases checkDocument_idle engine backoff state words
          hRead with ⟨hState, hEntries⟩
        rcases diagnose_checkDocument engine backoff state
          words encoding hScheme with ⟨hTool, hMoves⟩
        rw [hTool, hMoves, hState, hEntries]
        exact ⟨rfl, rfl⟩
      · rw [diagnose, if_neg hScheme]
        exact ⟨rfl, rfl⟩

/-
  A document with a text to check is diagnosed in a run of
  calls about its plain text.
-/
theorem diagnose_asks
    {m : Nat}
    (hRetries : backoff.retries = m)
    (state : τ)
    (hScheme : document.hasSupportedScheme = true)
    {annotated : AnnotatedText}
    (hRead : document.ReadAs annotated) :
    let plain := annotated.plainText
    let call := fun i =>
      (nthCall engine.check plain i state).1
    let diagnosed :=
      diagnose engine.watched backoff (some (state, []))
        document words encoding
    ∃ last ≤ m,
      (∀ i < last, IsPassing (call i)) ∧
        (last = m ∨ ¬ IsPassing (call last)) ∧
        textsAsked diagnosed.value.2 =
          List.replicate (last + 1) plain ∧
        moves diagnosed.entries =
          callsAround plain
            ((List.range last).map backoff.delay) := by
  intro plain call diagnosed
  rcases exists_last_call engine.check plain m state with
    ⟨last, hLast, hBefore, hEnd⟩
  refine ⟨last, hLast, hBefore, hEnd, ?_⟩
  have hSame :
      ∀ i, (nthCall engine.watched.check plain i
          (state, [])).1 = call i := by
    intro i
    exact congrArg Prod.fst
      (nthCall_watch engine.check plain i state [])
  have hRun :=
    retry_endsAt backoff engine.check plain hRetries hLast
      hBefore hEnd
  have hMoves :=
    moves_effects backoff engine.watched.check plain hRetries
      hLast (s := (state, []))
      (fun i hLt => (hSame i).symm ▸ hBefore i hLt)
      (hEnd.imp_right
        (fun hOther => (hSame last).symm ▸ hOther)) plain
  rcases checkDocument_run engine.watched backoff (state, [])
    words hRead with ⟨hState, hChecked⟩
  rcases diagnose_checkDocument engine.watched backoff
    (state, []) words encoding hScheme with ⟨hTool, hEffects⟩
  refine ⟨?_, (hEffects.trans hChecked).trans hMoves⟩
  rw [textsAsked, hTool, hState]
  exact hRun.arguments_eq

/- A document is passed over, or has a text to check. -/
theorem isPassedOver_or_readAs
    (document : Document)
    (tool : Option τ) :
    document.IsPassedOver tool ∨
      ∃ state annotated, tool = some state ∧
        document.hasSupportedScheme = true ∧
        document.ReadAs annotated := by
  cases tool with
  | none => exact Or.inl (Or.inl rfl)
  | some state =>
      by_cases hScheme : document.hasSupportedScheme = true
      · cases hSelect :
            selectText document.text document.languageId with
        | error e =>
            exact Or.inl (Or.inr (Or.inr (Or.inl
              ⟨e, hSelect⟩)))
        | ok annotated =>
            by_cases hBlank :
                annotated.plainText.strip.isEmpty = true
            · exact Or.inl (Or.inr (Or.inr (Or.inr
                ⟨annotated, hSelect, hBlank⟩)))
            · exact Or.inr ⟨state, annotated, rfl, hScheme,
                hSelect, Bool.not_eq_true _ ▸ hBlank⟩
      · exact Or.inl (Or.inr (Or.inl
          (Bool.not_eq_true _ ▸ hScheme)))

/- Nothing is asked about a document that is passed over. -/
theorem nothing_asked
    {tool : Option τ}
    (hPassed : document.IsPassedOver tool) :
    let diagnosed :=
      diagnose engine.watched backoff (tool.map (·, []))
        document words encoding
    textsAsked diagnosed.value.2 = [] ∧
      moves diagnosed.entries = [] := by
  intro diagnosed
  have hSame :
      document.IsPassedOver
        (tool.map (fun state => (state, ([] : List Text)))) := by
    refine hPassed.imp_left ?_
    rintro rfl
    rfl
  rcases diagnose_of_isPassedOver engine.watched backoff words
    encoding hSame with ⟨hTool, hMoves⟩
  refine ⟨?_, hMoves⟩
  dsimp only [diagnosed]
  rw [hTool]
  cases tool with
  | none => rfl
  | some state => rfl

/- No more is asked than there are retries, and once more. -/
theorem length_textsAsked_le
    {backoff : Backoff Binary64}
    {m : Nat}
    (hRetries : backoff.retries = m)
    (tool : Option τ)
    (document : Document) :
    let diagnosed :=
      diagnose engine.watched backoff (tool.map (·, []))
        document words encoding
    (textsAsked diagnosed.value.2).length ≤ m + 1 := by
  intro diagnosed
  rcases isPassedOver_or_readAs document tool with
    hPassed | ⟨state, annotated, rfl, hScheme, hRead⟩
  · have hNone :=
      (nothing_asked engine backoff words encoding hPassed).1
    dsimp only [diagnosed]
    rw [hNone]
    exact Nat.zero_le _
  · rcases diagnose_asks engine backoff words encoding hRetries
      state hScheme hRead with
      ⟨last, hLast, _, _, hAsked, _⟩
    dsimp only [diagnosed, Option.map]
    rw [hAsked, List.length_replicate]
    exact Nat.add_le_add_right hLast 1

/-
  The law of retries, for any type of numbers.  With up to
  `n` retries, a run ends at the first call that does not
  fail for a passing reason, if that is among the first
  `n + 1`, and else at the last one of these.  Whoever is
  called is called so often, each time with the argument, and
  there is one pause before each call but the first.

  So the tool that checks a document is asked about its plain
  text only, with a pause between two calls, and three times
  at most with the usual pauses.  It is never asked where
  there is no tool, where the address or the language is none
  that is checked, or where the plain text is blank.
-/
theorem retry_law
    {ν σ α β : Type} [Mul ν] [Min ν] [NatCast ν]
    (b : Backoff ν)
    {n : Nat}
    (hRetries : b.retries = n)
    (f : σ → α → Except Failure β × σ)
    (s : σ)
    (arg : α)
    {m : Nat}
    (hBackoff : backoff.retries = m)
    (tool : Option τ)
    (document : Document) :
    let call := fun i => (nthCall f arg i s).1
    let run := retry b (watch f) (s, []) arg
    let diagnosed :=
      diagnose engine.watched backoff (tool.map (·, []))
        document words encoding
    let asked := textsAsked diagnosed.value.2
    (∀ k, (∀ i < k, IsPassing (call i)) →
      (k ≤ n → ¬ IsPassing (call k) →
        run.EndsAt b call arg k) ∧
      (n < k → run.EndsAt b call arg n)) ∧
    (document.IsPassedOver tool →
      asked = [] ∧ moves diagnosed.entries = []) ∧
    (∀ state annotated, tool = some state →
      document.hasSupportedScheme = true →
      document.ReadAs annotated →
        let plain := annotated.plainText
        let answer := fun i =>
          (nthCall engine.check plain i state).1
        ∃ last ≤ m,
          (∀ i < last, IsPassing (answer i)) ∧
            (last = m ∨ ¬ IsPassing (answer last)) ∧
            asked = List.replicate (last + 1) plain ∧
            moves diagnosed.entries =
              callsAround plain
                ((List.range last).map backoff.delay)) ∧
    (∀ jitter, backoff = .standard jitter →
      asked.length ≤ 3) := by
  intro call run diagnosed asked
  refine ⟨?_, ?_, ?_, ?_⟩
  · intro k hBefore
    refine ⟨?_, ?_⟩
    · intro hLe hOther
      exact retry_endsAt b f arg hRetries hLe hBefore
        (Or.inr hOther)
    · intro hMore
      exact retry_endsAt b f arg hRetries (Nat.le_refl n)
        (fun i hLt => hBefore i (Nat.lt_trans hLt hMore))
        (Or.inl rfl)
  · exact nothing_asked engine backoff words encoding
  · intro state annotated hTool hScheme hRead
    subst hTool
    exact diagnose_asks engine backoff words encoding hBackoff
      state hScheme hRead
  · rintro jitter rfl
    have hTwo : m = 2 := Int.ofNat.inj hBackoff.symm
    subst hTwo
    exact length_textsAsked_le engine words encoding hBackoff
      tool document

/-
  Something that times out twice and works then, with three
  retries and pauses of at most one second: there are three
  calls, and the second pause is cut.  A tool that always
  times out is asked about a line three times.
-/
theorem retry_law_flaky :
    let timeout : Failure := ⟨.timeout, "timed out"⟩
    let b : Backoff Rat := ⟨3, 1 / 2, 1, fun _ => 5 / 4⟩
    let f : Nat → Text → Except Failure Bool × Nat :=
      fun i _ =>
        (if i < 2 then .error timeout else .ok true, i + 1)
    let run := retry b (watch f) (0, []) ['a']
    let diagnosed :=
      diagnose (Engine.failing timeout).watched
        (.standard (fun _ => Binary64.ofNat 1))
        (some ((), [])) typoLine [] .utf16
    run.outcome = .ok true ∧
      run.state.2 = [['a'], ['a'], ['a']] ∧
      run.delays = [5 / 8, 1] ∧
      textsAsked diagnosed.value.2 =
        List.replicate 3 typoLine.text ∧
      (moves diagnosed.entries).length = 5 := by
  intro timeout b f run diagnosed
  have hLaw :=
    retry_law (Engine.failing timeout)
      (.standard (fun _ => Binary64.ofNat 1)) [] .utf16 b
      (n := 3) rfl f 0 ['a'] (m := 2) rfl (some ()) typoLine
  have hBefore :
      ∀ i < 2, IsPassing (nthCall f ['a'] i 0).1 := by
    intro i hLt
    match i, hLt with
    | 0, _ => exact ⟨timeout, rfl, rfl⟩
    | 1, _ => exact ⟨timeout, rfl, rfl⟩
  have hRun := (hLaw.1 2 hBefore).1 (by decide)
    (not_isPassing_ok true)
  rcases hLaw.2.2.1 () _ rfl (by decide) typoLine_readAs with
    ⟨last, hLast, _, hEnd, hAsked, hMoves⟩
  have hTwo : last = 2 := by
    refine hEnd.resolve_right (not_not_intro ?_)
    dsimp only
    rw [nthCall_failing]
    exact ⟨timeout, rfl, rfl⟩
  subst hTwo
  refine ⟨hRun.outcome_eq, hRun.arguments_eq, ?_, hAsked,
    congrArg List.length hMoves⟩
  refine hRun.delays_eq.trans ?_
  norm_num [List.range_succ, b]

end ProseCheck

import Mathlib.Data.List.Nodup
import ProseCheck.Program.Run
import ProseCheck.Proofs.Server.ToolUse
import ProseCheck.Server.OpenDocuments

/-
  This file accounts for every tool that is created while the
  program runs.  At any time all tools but the one in use are
  closed, each of them once.  In the end there is no tool in
  use, however the program ends.

  Main declarations:
    * `Accounted`
    * `acts`
    * `runProgram_balanced`
    * `tools_accounted`
-/

------------------------------------------------------------
-- Accounts
------------------------------------------------------------

namespace ProseCheck

variable {τ : Type}

/-
  All tools that effects create are accounted for: no two of
  them are the same, the current one is open, and every other
  is closed exactly once.  Nothing else is closed.
-/
structure Accounted
    (engine : Engine τ)
    (es : List Effect)
    (current : Option Nat) : Prop where
  distinct : (engine.created es).Nodup
  current_open : ∀ n, current = some n →
    n ∈ engine.created es ∧ n ∉ closings es
  others_closed : ∀ n ∈ engine.created es,
    current ≠ some n → (closings es).count n = 1
  only_created : ∀ n ∈ closings es, n ∈ engine.created es

/- What is balanced from the start accounts for all tools. -/
theorem Server.Balanced.accounted
    {ω : Type}
    [Workspace ω]
    {engine : Engine τ}
    {s s' : Server τ ω}
    {es : List Effect}
    (hBalanced : Balanced engine s es s')
    (hTool : s.tool = none) :
    Accounted engine es s'.inUse := by
  have hCreated :
      engine.created es = closings es ++ s'.inUse.toList := by
    rw [← hBalanced.balance, inUse, hTool]
    rfl
  have hDistinct : (engine.created es).Nodup :=
    hBalanced.ordered.imp Nat.ne_of_lt
  have hParts := hDistinct
  rw [hCreated, List.nodup_append] at hParts
  rcases hParts with ⟨hClosings, _, hApart⟩
  refine ⟨hDistinct, ?_, ?_, ?_⟩
  · intro n hCurrent
    have hMem : n ∈ s'.inUse.toList :=
      Option.mem_toList.mpr hCurrent
    rw [hCreated]
    refine ⟨List.mem_append_right _ hMem, ?_⟩
    intro hClosed
    exact hApart n hClosed n hMem rfl
  · intro n hMem hOther
    apply List.count_eq_one_of_mem hClosings
    rw [hCreated, List.mem_append] at hMem
    apply hMem.resolve_right
    intro hCurrent
    exact hOther (Option.mem_toList.mp hCurrent)
  · intro n hMem
    rw [hCreated]
    exact List.mem_append_left _ hMem

end ProseCheck

------------------------------------------------------------
-- Effects of the Program
------------------------------------------------------------

namespace ProseCheck

variable {α : Type}

/- What a server does in an effect of the program. -/
def ProgramEffect.act? : ProgramEffect → Option Effect
  | .act e => some e
  | _ => none

/- What a server does while the program runs. -/
def acts
    (es : List ProgramEffect) : List Effect :=
  es.filterMap ProgramEffect.act?

@[simp]
theorem acts_append
    (es fs : List ProgramEffect) :
    acts (es ++ fs) = acts es ++ acts fs :=
  List.filterMap_append

@[simp]
theorem acts_add
    (e : ProgramEffect) :
    acts (Recorded.add e).entries = e.act?.toList := by
  cases e with
  | act e => rfl
  | _ => rfl

@[simp]
theorem value_acted
    (x : Recorded Effect α) :
    x.acted.value = x.value := rfl

@[simp]
theorem acts_acted
    (x : Recorded Effect α) :
    acts x.acted.entries = x.entries := by
  change (x.entries.map ProgramEffect.act).filterMap _ = _
  rw [List.filterMap_map]
  exact List.filterMap_some

/- What the program does when its server ends is idle. -/
theorem allIdle_exitAfter
    (outcome : Except Failure Unit) :
    AllIdle (acts (exitAfter outcome).entries) := by
  unfold exitAfter
  split
  · exact allIdle_nil
  split
  · exact idle_singleton () (isIdle_message _ _)
  split
  · exact idle_singleton () (isIdle_message _ _)
  · exact allIdle_nil

end ProseCheck

------------------------------------------------------------
-- Runs of the Program
------------------------------------------------------------

namespace ProseCheck

open Server

variable
  {τ ω : Type}
  [Workspace ω]
  {setting : Setting τ}

/- Serving is balanced, and leaves no tool. -/
theorem serveWith_balanced
    (hClosable : setting.engine.closable = true)
    (serving : Serving)
    (endpoint : Endpoint)
    (s : Server τ ω) :
    let r := serveWith setting serving endpoint s
    Balanced setting.engine s (acts r.entries) r.value.2 ∧
      r.value.2.tool = none ∧
      r.value.1 = (exitAfter serving.outcome).value := by
  intro r
  let served := s.performAll setting serving.steps
  let closed := served.value.closeTool setting.engine
  have hEntries :
      acts r.entries =
        [.message .info endpoint.description] ++
          (served.entries ++
            (acts (exitAfter serving.outcome).entries ++
              closed.entries)) := by
    simp [r, serveWith, served, closed,
      ProgramEffect.message, ProgramEffect.act?]
  have hClosed :
      closed.value = { served.value with tool := none } :=
    (closeTool_spec setting.engine served.value).1
  have hValue :
      r.value =
        ((exitAfter serving.outcome).value, closed.value) :=
    rfl
  have hBalanced :
      Balanced setting.engine s (acts r.entries)
        closed.value := by
    have hExit := allIdle_exitAfter serving.outcome
    rw [hEntries, hClosed]
    apply Balanced.trans
      (Untouched.balanced setting.engine
        ⟨idle_singleton () (isIdle_message _ _), rfl, rfl⟩)
    apply (performAll_balanced hClosable _ s).trans
    apply Balanced.trans
      (Untouched.balanced setting.engine ⟨hExit, rfl, rfl⟩)
    exact closeTool_balanced hClosable _ _
  exact ⟨hBalanced, congrArg (·.tool) hClosed, rfl⟩

/- Starting is balanced. -/
theorem startWith_balanced
    (hClosable : setting.engine.closable = true)
    (language : Option String)
    (s : Server τ ω) :
    Balanced setting.engine s
      (startWith setting language s).entries
      (startWith setting language s).value.2 := by
  unfold startWith
  split
  · exact balanced_pure _ _ _
  split
  · exact balanced_pure _ _ _
  · exact configure_balanced hClosable _ s

/- A start that fails leaves no tool. -/
theorem tool_startWith_eq_none
    {language : Option String}
    {s : Server τ ω}
    {e : Failure}
    (hError :
      (startWith setting language s).value.1 = .error e) :
    (startWith setting language s).value.2.tool = none := by
  unfold startWith at hError ⊢
  split at hError
  · cases hError
  split at hError
  · cases hError
  · rename_i hText
    rw [if_neg hText]
    exact tool_configure_eq_none _
      (Or.inr (Or.inr ⟨e, hError⟩))

/-
  Running with options is balanced, and leaves no tool.  The
  program fails if it cannot be started, and else ends the
  way that its server does.
-/
theorem runWith_balanced
    (hClosable : setting.engine.closable = true)
    (serving : Serving)
    (o : Options) :
    let s : Server τ ω := { remoteServer := o.remoteServer }
    let started := startWith setting o.language s
    let r := runWith setting serving o
    Balanced setting.engine s (acts r.entries) r.value.2 ∧
      r.value.2.tool = none ∧
      r.value.1 =
        match started.value.1 with
        | .ok () => (exitAfter serving.outcome).value
        | .error e => .failed e := by
  intro s started r
  have hStart := startWith_balanced hClosable o.language s
  cases hStarted : started.value.1 with
  | error e =>
      have hEntries : acts r.entries = started.entries := by
        simp [r, runWith, s, started, hStarted,
          ProgramEffect.act?]
      have hValue : r.value = (.failed e, started.value.2) := by
        simp [r, runWith, s, started, hStarted]
      rw [hEntries, hValue]
      exact ⟨hStart, tool_startWith_eq_none hStarted, rfl⟩
  | ok _ =>
      let served :=
        serveWith setting serving o.endpoint started.value.2
      have hEntries :
          acts r.entries =
            started.entries ++ acts served.entries := by
        simp [r, runWith, s, started, served, hStarted,
          ProgramEffect.act?]
      have hValue : r.value = served.value := by
        simp [r, runWith, s, started, served, hStarted]
      rcases serveWith_balanced hClosable serving o.endpoint
          started.value.2 with ⟨hServed, hTool, hExit⟩
      rw [hEntries, hValue]
      exact ⟨hStart.trans hServed, hTool, hExit⟩

end ProseCheck

------------------------------------------------------------
-- All Tools
------------------------------------------------------------

namespace ProseCheck

open Server

variable {τ : Type}

/- The codes with which the program ends. -/
theorem exitAfter_codes
    (outcome : Except Failure Unit) :
    let exit := (exitAfter outcome).value
    (outcome = .ok () → exit = .code 0) ∧
      ∀ e, outcome = .error e →
        (e.kind = .interrupt → exit = .code 0) ∧
          (e.kind.isSystem = true → exit = .code 1) := by
  intro exit
  refine ⟨?_, ?_⟩
  · rintro rfl
    rfl
  · rintro e rfl
    refine ⟨?_, ?_⟩
    · intro hInterrupt
      simp [exit, exitAfter, hInterrupt]
    · intro hSystem
      have hOther : e.kind ≠ .interrupt := by
        intro hInterrupt
        rw [hInterrupt] at hSystem
        cases hSystem
      simp [exit, exitAfter, hOther, hSystem]

/- In the end, the program has closed all its tools. -/
theorem runProgram_accounted
    (ω : Type)
    [Workspace ω]
    {setting : Setting τ}
    (hClosable : setting.engine.closable = true)
    (serving : Serving)
    (environment : Environment)
    (file : Option Text)
    (texts : List String) :
    let r : Recorded ProgramEffect (Exit × Server τ ω) :=
      runProgram setting serving environment file texts
    Accounted setting.engine (acts r.entries) none ∧
      r.value.2.tool = none := by
  intro r
  cases hRead :
      Options.read (environment.extend file) texts with
  | error why =>
      have hStopped : r = pure (.stopped why, {}) := by
        simp only [r, runProgram, hRead]
      have hNothing :=
        balanced_pure setting.engine (Exit.stopped why)
          ({} : Server τ ω)
      rw [hStopped]
      exact ⟨hNothing.accounted rfl, rfl⟩
  | ok o =>
      have hRun : r = runWith setting serving o := by
        simp only [r, runProgram, hRead]
      rcases runWith_balanced (ω := ω) hClosable serving o
        with ⟨hBalanced, hTool, _⟩
      have hAccounted := hBalanced.accounted rfl
      rw [inUse, hTool] at hAccounted
      rw [hRun]
      exact ⟨hAccounted, hTool⟩

/-
  Whatever steps a server takes, all tools that it creates are
  accounted for, and settings that come to nothing leave it
  without a tool.  Whatever happens while the program serves,
  all tools are closed in the end.  If it can be started, its
  code is 0 when its server ends or is interrupted, and 1 when
  the system fails.
-/
theorem tools_accounted
    (ω : Type)
    [Workspace ω]
    (setting : Setting τ)
    (hClosable : setting.engine.closable = true) :
    (∀ (s : Server τ ω) (steps : List Step), s.tool = none →
        let r := s.performAll setting steps
        Accounted setting.engine r.entries r.value.inUse ∧
          ∀ step settings, step.settings? = some settings →
            let last := r.value.perform setting step
            ComesToNothing setting.engine settings last →
              last.value.2.tool = none) ∧
      ∀ (serving : Serving) (environment : Environment)
        (file : Option Text) (texts : List String),
        let r : Recorded ProgramEffect (Exit × Server τ ω) :=
          runProgram setting serving environment file texts
        Accounted setting.engine (acts r.entries) none ∧
          r.value.2.tool = none ∧
          ∀ o, Options.read (environment.extend file) texts =
              .ok o →
            match (startWith setting o.language
                ({ remoteServer := o.remoteServer } :
                  Server τ ω)).value.1
            with
            | .error e => r.value.1 = .failed e
            | .ok () =>
                (serving.outcome = .ok () →
                    r.value.1 = .code 0) ∧
                  ∀ e, serving.outcome = .error e →
                    (e.kind = .interrupt →
                        r.value.1 = .code 0) ∧
                      (e.kind.isSystem = true →
                        r.value.1 = .code 1) := by
  refine ⟨?_, ?_⟩
  · intro s steps hTool r
    have hBalanced := performAll_balanced hClosable steps s
    refine ⟨hBalanced.accounted hTool, ?_⟩
    intro step settings hSettings last hNothing
    exact tool_perform_eq_none hSettings hNothing
  · intro serving environment file texts r
    rcases runProgram_accounted ω hClosable serving
        environment file texts with ⟨hAccounted, hTool⟩
    refine ⟨hAccounted, hTool, ?_⟩
    intro o hRead
    have hRun : r = runWith setting serving o := by
      simp only [r, runProgram, hRead]
    have hExit :=
      (runWith_balanced (ω := ω) hClosable serving o).2.2
    rw [← hRun] at hExit
    split
    · rename_i e hStarted
      rw [hExit, hStarted]
    · rename_i hStarted
      rw [hStarted] at hExit
      rw [hExit]
      exact exitAfter_codes serving.outcome

/- An engine that fails the second time. -/
def Setting.flaky : Setting Unit where
  engine :=
    { create := fun serial _ =>
        if serial = 1 then .error ⟨.runtime, "no memory"⟩
        else .ok ()
      check := fun _ _ => (.ok [], ()) }
  backoff := .standard (fun _ => Binary64.ofNat 1)

/-
  A server that is configured three times has no tool after
  the second time, which is an error, and in the end it has
  closed the first tool and kept the last.  The program closes
  the last one, too, and its code is 1 since the connection is
  refused.
-/
theorem tools_accounted_flaky :
    let french : Step := .configure { language := some "fr" }
    let german : Step := .configure { language := some "de" }
    let server : Server Unit OpenDocuments := {}
    let one := server.performAll Setting.flaky [french]
    let two := one.value.perform Setting.flaky german
    let three :=
      server.performAll Setting.flaky [french, german, french]
    let program :
        Recorded ProgramEffect
          (Exit × Server Unit OpenDocuments) :=
      runProgram Setting.flaky
        ⟨[german, french], .error ⟨.refused, "refused"⟩⟩
        [] none ["--stdio", "--language", "fr"]
    Setting.flaky.engine.closable = true ∧
      two.value.1 = .error (.tool ⟨.runtime, "no memory"⟩) ∧
      two.value.2.tool = none ∧
      three.value.inUse = some 2 ∧
      Accounted Setting.flaky.engine three.entries (some 2) ∧
      Accounted Setting.flaky.engine (acts program.entries)
        none ∧
      program.value.1 = .code 1 := by
  intro french german server one two three program
  rcases tools_accounted OpenDocuments Setting.flaky rfl with
    ⟨hSteps, hProgram⟩
  have hFails :
      two.value.1 =
        .error (.tool ⟨.runtime, "no memory"⟩) := by
    rfl
  have hNone : two.value.2.tool = none :=
    (hSteps server [french] rfl).2 german
      { language := some "de" } rfl
      (Or.inr (Or.inr ⟨_, hFails⟩))
  have hInUse : three.value.inUse = some 2 := by rfl
  have hThree : Accounted _ three.entries (some 2) :=
    hInUse ▸ (hSteps server [french, german, french] rfl).1
  rcases hProgram
      ⟨[german, french], .error ⟨.refused, "refused"⟩⟩ []
      none ["--stdio", "--language", "fr"] with
    ⟨hClosed, _, hEnds⟩
  have hRead :
      Options.read (Environment.extend [] none)
          ["--stdio", "--language", "fr"] =
        .ok ⟨8081, "localhost", true, some "fr", none, false,
          none⟩ := by
    rfl
  have hStarted :
      (startWith Setting.flaky (some "fr")
        ({} : Server Unit OpenDocuments)).value.1 =
          .ok () := by
    rfl
  have hCode := hEnds _ hRead
  rw [hStarted] at hCode
  exact ⟨rfl, hFails, hNone, hInUse, hThree, hClosed,
    (hCode.2 _ rfl).2 rfl⟩

end ProseCheck

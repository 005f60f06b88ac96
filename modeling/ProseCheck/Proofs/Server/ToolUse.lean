import ProseCheck.Proofs.Check.Idle
import ProseCheck.Proofs.Server.Sync

/-
  This file keeps account of the tools of a server.  Every
  step of a server is balanced: the tools that it has before,
  with the ones that it creates, are the ones that it closes,
  with the one that it has after.

  Main declarations:
    * `Server.Balanced`
    * `Server.tool_configure_eq_none`
    * `Server.performAll_balanced`
    * `Server.tool_perform_eq_none`
-/

------------------------------------------------------------
-- Balance
------------------------------------------------------------

namespace ProseCheck

namespace Server

variable {τ ω : Type} [Workspace ω]

/- The number of the tool in use. -/
def inUse
    (s : Server τ ω) : Option Nat :=
  s.tool.map (·.serial)

/- Nothing has happened to a server that concerns its tool. -/
structure Untouched
    (s : Server τ ω)
    (es : List Effect)
    (s' : Server τ ω) : Prop where
  idle : AllIdle es
  inUse : s'.inUse = s.inUse
  requests : s'.requests = s.requests

/-
  Between two states, the tools of a server are balanced with
  some effects.  New tools have the numbers of new requests.
-/
structure Balanced
    (engine : Engine τ)
    (s : Server τ ω)
    (es : List Effect)
    (s' : Server τ ω) : Prop where
  requests : s.requests ≤ s'.requests
  fresh : ∀ n ∈ engine.created es,
    s.requests ≤ n ∧ n < s'.requests
  ordered : (engine.created es).Pairwise (· < ·)
  balance :
    s.inUse.toList ++ engine.created es =
      closings es ++ s'.inUse.toList

variable
  {engine : Engine τ}
  {s s' s'' : Server τ ω}
  {es fs : List Effect}
  {α ρ σ : Type}

/- A value that is there already touches nothing. -/
theorem untouched_pure
    (r : ρ)
    (s : Server τ ω) :
    Untouched s
      (pure (r, s) : Recorded Effect (ρ × Server τ ω)).entries
      s :=
  ⟨idle_pure (r, s), rfl, rfl⟩

/- Two computations that touch nothing touch nothing. -/
theorem Untouched.bind
    {x : Recorded Effect (ρ × Server τ ω)}
    {f : ρ × Server τ ω → Recorded Effect (σ × Server τ ω)}
    (hFirst : Untouched s x.entries x.value.2)
    (hRest :
      Untouched x.value.2 (f x.value).entries
        (f x.value).value.2) :
    Untouched s (x >>= f).entries (x >>= f).value.2 :=
  { idle := Recorded.Idle.bind hFirst.idle hRest.idle
    inUse := hRest.inUse.trans hFirst.inUse
    requests := hRest.requests.trans hFirst.requests }

/- Where none is created, the tools are closed or still there. -/
theorem balanced_of_created_nil
    (hRequests : s.requests ≤ s'.requests)
    (hCreated : engine.created es = [])
    (hBalance :
      s.inUse.toList = closings es ++ s'.inUse.toList) :
    Balanced engine s es s' := by
  refine ⟨hRequests, ?_, ?_, ?_⟩
  · rw [hCreated]
    intro n hMem
    cases hMem
  · rw [hCreated]
    exact List.Pairwise.nil
  · rw [hCreated, List.append_nil]
    exact hBalance

/- A server whose tool is not touched is balanced. -/
theorem Untouched.balanced
    (engine : Engine τ)
    (hUntouched : Untouched s es s') :
    Balanced engine s es s' := by
  have hIdle := hUntouched.idle
  apply balanced_of_created_nil
  · exact Nat.le_of_eq hUntouched.requests.symm
  · exact hIdle.created_eq_nil engine
  · rw [hIdle.closings_eq_nil, hUntouched.inUse]
    rfl

/- One balanced step may follow another. -/
theorem Balanced.trans
    (hFirst : Balanced engine s es s')
    (hNext : Balanced engine s' fs s'') :
    Balanced engine s (es ++ fs) s'' := by
  refine ⟨Nat.le_trans hFirst.requests hNext.requests,
    ?_, ?_, ?_⟩
  · intro n hMem
    rw [Engine.created_append, List.mem_append] at hMem
    rcases hMem with hFront | hBack
    · have hFresh := hFirst.fresh n hFront
      exact ⟨hFresh.1,
        Nat.lt_of_lt_of_le hFresh.2 hNext.requests⟩
    · have hFresh := hNext.fresh n hBack
      exact ⟨Nat.le_trans hFirst.requests hFresh.1,
        hFresh.2⟩
  · rw [Engine.created_append, List.pairwise_append]
    refine ⟨hFirst.ordered, hNext.ordered, ?_⟩
    intro m hFront n hBack
    exact Nat.lt_of_lt_of_le (hFirst.fresh m hFront).2
      (hNext.fresh n hBack).1
  · calc
      s.inUse.toList ++ engine.created (es ++ fs)
        = s.inUse.toList ++ engine.created es ++
            engine.created fs := by
          rw [Engine.created_append, List.append_assoc]
      _ = closings es ++
            (s'.inUse.toList ++ engine.created fs) := by
          rw [hFirst.balance, List.append_assoc]
      _ = closings (es ++ fs) ++ s''.inUse.toList := by
          rw [hNext.balance, closings_append,
            List.append_assoc]

/- A balanced computation may be followed by another. -/
theorem Balanced.bind
    {x : Recorded Effect (ρ × Server τ ω)}
    {f : ρ × Server τ ω → Recorded Effect (σ × Server τ ω)}
    (hFirst : Balanced engine s x.entries x.value.2)
    (hRest :
      Balanced engine x.value.2 (f x.value).entries
        (f x.value).value.2) :
    Balanced engine s (x >>= f).entries
      (x >>= f).value.2 :=
  hFirst.trans hRest

/- So may an idle computation that leaves the server alone. -/
theorem Balanced.after_idle
    {x : Recorded Effect α}
    {f : α → Recorded Effect (ρ × Server τ ω)}
    (hIdle : x.Idle)
    (hRest :
      Balanced engine s (f x.value).entries
        (f x.value).value.2) :
    Balanced engine s (x >>= f).entries
      (x >>= f).value.2 :=
  (Untouched.balanced engine ⟨hIdle, rfl, rfl⟩).trans hRest

/- A value that is there already leaves a server as it is. -/
theorem balanced_pure
    (engine : Engine τ)
    (r : ρ)
    (s : Server τ ω) :
    Balanced engine s
      (pure (r, s) : Recorded Effect (ρ × Server τ ω)).entries
      s :=
  (untouched_pure r s).balanced engine

end Server

end ProseCheck

------------------------------------------------------------
-- New Tools
------------------------------------------------------------

namespace ProseCheck

variable
  {τ ω : Type}
  [Workspace ω]
  {engine : Engine τ}

/- Effects ask for a tool that the engine fails to create. -/
def Engine.FailsIn
    (engine : Engine τ)
    (es : List Effect) : Prop :=
  ∃ serial request e, Effect.create serial request ∈ es ∧
    engine.create serial request = .error e

/- Idle effects ask for nothing. -/
theorem Engine.not_failsIn_of_idle
    {es : List Effect}
    (hIdle : AllIdle es) :
    ¬ engine.FailsIn es := by
  rintro ⟨serial, request, _, hMem, _⟩
  exact hIdle _ hMem

/- What fails, fails in the one part or the other. -/
theorem Engine.failsIn_append
    {es fs : List Effect} :
    engine.FailsIn (es ++ fs) ↔
      engine.FailsIn es ∨ engine.FailsIn fs := by
  simp only [FailsIn, List.mem_append, or_and_right,
    exists_or]

/-
  Either no tool is built, and none was created, or a tool is
  built, which is the only one that was asked for.
-/
theorem Manager.buildTool_cases
    (engine : Engine τ)
    (m : Manager)
    (serial : Nat)
    (language : String) :
    let built := m.buildTool engine serial language
    closings built.entries = [] ∧
      ((∃ e, built.value.1 = .error e ∧
          engine.created built.entries = []) ∨
        ∃ t, built.value.1 = .ok t ∧ t.serial = serial ∧
          engine.created built.entries = [serial] ∧
          ¬ engine.FailsIn built.entries) := by
  intro built
  have hLogs := allIdle_map_log (m.registerRecords language)
  have hNone := hLogs.created_eq_nil engine
  have hOpen := hLogs.closings_eq_nil
  cases hCreate :
      engine.create serial (m.request language) with
  | error e =>
      have hEntries :
          built.entries =
            (m.registerRecords language).map Effect.log ++
              [.create serial (m.request language)] := by
        simp [built, buildTool, hCreate, Recorded.addAll,
          Recorded.add]
      refine ⟨?_, Or.inl ⟨e, ?_, ?_⟩⟩
      · rw [hEntries, closings_append, hOpen]
        rfl
      · simp [built, buildTool, hCreate]
      · rw [hEntries, Engine.created_append, hNone]
        simp [Engine.created, Engine.created?, hCreate]
  | ok state =>
      have hEntries :
          built.entries =
            (m.registerRecords language).map Effect.log ++
              [.create serial (m.request language),
                .log (m.createdRecord language [])] := by
        simp [built, buildTool, hCreate, Recorded.addAll,
          Recorded.add]
      refine ⟨?_, Or.inr ⟨m.toolOf serial [] state, ?_, rfl,
        ?_, ?_⟩⟩
      · rw [hEntries, closings_append, hOpen]
        rfl
      · simp [built, buildTool, hCreate]
      · rw [hEntries, Engine.created_append, hNone]
        simp [Engine.created, Engine.created?, hCreate]
      · rw [hEntries, Engine.failsIn_append, not_or]
        refine ⟨Engine.not_failsIn_of_idle hLogs, ?_⟩
        rintro ⟨other, request, e, hMem, hError⟩
        simp only [List.mem_cons, Effect.create.injEq,
          reduceCtorEq, List.not_mem_nil, or_false] at hMem
        rcases hMem with ⟨rfl, rfl⟩
        rw [hCreate] at hError
        cases hError

namespace Server

/- Doing without a tool is idle. -/
theorem idle_withoutTool
    (language : String)
    (e : Failure) :
    (withoutTool language e).Idle := by
  unfold withoutTool
  split
  · exact idle_singleton _ (isIdle_message _ _)
  split
  · exact idle_singleton _ (isIdle_message _ _)
  · exact idle_pure _

/-
  Either there is still no tool, and none was created, or
  there is a new one, and it is all that was asked for.
-/
theorem openTool_cases
    (engine : Engine τ)
    (language : String)
    (s : Server τ ω)
    (hTool : s.tool = none) :
    let opened := s.openTool engine language
    opened.value.2.requests = s.requests + 1 ∧
      closings opened.entries = [] ∧
      ((opened.value.2.tool = none ∧
          engine.created opened.entries = []) ∨
        opened.value.1 = .ok () ∧
          opened.value.2.inUse = some s.requests ∧
          engine.created opened.entries = [s.requests] ∧
          ¬ engine.FailsIn opened.entries) := by
  intro opened
  rcases s.manager.buildTool_cases engine s.requests
      language with
    ⟨hOpen, ⟨e, hBuilt, hNone⟩ |
      ⟨t, hBuilt, hSerial, hOne, hSound⟩⟩
  · have hIdle := idle_withoutTool language e
    have hEntries :
        opened.entries =
          (s.manager.buildTool engine s.requests
              language).entries ++
            (withoutTool language e).entries := by
      simp [opened, openTool, hBuilt]
    have hValue :
        opened.value.2 =
          { s with requests := s.requests + 1 } := by
      simp [opened, openTool, hBuilt]
    rw [hEntries, hValue, closings_append, hOpen,
      hIdle.closings_eq_nil, Engine.created_append, hNone,
      hIdle.created_eq_nil engine]
    exact ⟨rfl, rfl, Or.inl ⟨hTool, rfl⟩⟩
  · have hEntries :
        opened.entries =
          (s.manager.buildTool engine s.requests
            language).entries := by
      simp [opened, openTool, hBuilt]
    have hValue :
        opened.value =
          (.ok (),
            { s with
              tool := some t
              requests := s.requests + 1 }) := by
      simp [opened, openTool, hBuilt]
    rw [hEntries, hValue, hOpen, hOne]
    exact ⟨rfl, rfl,
      Or.inr ⟨rfl, congrArg some hSerial, rfl, hSound⟩⟩

/- Giving up a tool asks for none, and leaves none. -/
theorem closeTool_spec
    (engine : Engine τ)
    (s : Server τ ω) :
    let closed := s.closeTool engine
    closed.value = { s with tool := none } ∧
      ¬ engine.FailsIn closed.entries := by
  refine ⟨(closeTool_quietly engine s).1, ?_⟩
  rintro ⟨serial, request, _, hMem, _⟩
  unfold closeTool at hMem
  split at hMem
  · cases hMem
  · dsimp only at hMem
    split at hMem
    · cases List.mem_singleton.mp hMem
    · cases hMem

/- Without a language, the tool is given up, and no more. -/
theorem configure_of_none
    (engine : Engine τ)
    (s : Server τ ω)
    {settings : Settings}
    (hLanguage : settings.language = none) :
    let configured := s.configure engine settings
    configured.entries =
        (s.closeTool engine).entries ++
          [.message .info
            "No language configured; checking disabled"] ∧
      configured.value =
        (.ok (), { s with settings, tool := none }) := by
  have hClosed := (closeTool_spec engine s).1
  constructor
  · simp [configure, hLanguage, Recorded.add]
  · simp [configure, hLanguage, hClosed]

/- For a language, the tool is given up and another opened. -/
theorem configure_of_some
    (engine : Engine τ)
    (s : Server τ ω)
    {settings : Settings}
    {language : String}
    (hLanguage : settings.language = some language) :
    let configured := s.configure engine settings
    let opened :=
      ({ s with settings, tool := none } :
        Server τ ω).openTool engine language
    configured.entries =
        (s.closeTool engine).entries ++ opened.entries ∧
      configured.value = opened.value := by
  have hClosed := (closeTool_spec engine s).1
  constructor
  · simp [configure, hLanguage, hClosed]
  · simp [configure, hLanguage, hClosed]

/-
  A server that takes over settings has no tool if they name
  no language, if the new tool cannot be created, or if this
  is an error.
-/
theorem tool_configure_eq_none
    (settings : Settings)
    {s : Server τ ω} :
    let configured := s.configure engine settings
    settings.language = none ∨
        engine.FailsIn configured.entries ∨
        (∃ e, configured.value.1 = .error e) →
      configured.value.2.tool = none := by
  intro configured hFails
  cases hLanguage : settings.language with
  | none =>
      have hValue := (configure_of_none engine s hLanguage).2
      exact congrArg (·.2.tool) hValue
  | some language =>
      rcases configure_of_some engine s hLanguage with
        ⟨hEntries, hValue⟩
      rw [hValue]
      rcases openTool_cases engine language
          { s with settings, tool := none } rfl with
        ⟨_, _, ⟨hNone, _⟩ | ⟨hOk, _, _, hOther⟩⟩
      · exact hNone
      · rw [hLanguage, hEntries, Engine.failsIn_append,
          hValue, hOk] at hFails
        rcases hFails with
          hNo | (hClosing | hOpening) | ⟨e, hError⟩
        · cases hNo
        · exact absurd hClosing (closeTool_spec engine s).2
        · exact absurd hOpening hOther
        · cases hError

end Server

end ProseCheck

------------------------------------------------------------
-- Balanced Changes of Tools
------------------------------------------------------------

namespace ProseCheck

namespace Server

variable
  {τ ω : Type}
  [Workspace ω]
  {engine : Engine τ}

/- Giving up a tool is balanced: it is closed. -/
theorem closeTool_balanced
    (hClosable : engine.closable = true)
    (s : Server τ ω)
    (settings : Settings) :
    Balanced engine s (s.closeTool engine).entries
      { s with settings, tool := none } := by
  unfold closeTool
  split
  · rename_i hTool
    apply Untouched.balanced
    refine ⟨idle_pure s, ?_, rfl⟩
    rw [inUse, inUse, hTool]
  · rename_i t hTool
    rw [hClosable, if_pos rfl]
    apply balanced_of_created_nil
    · exact Nat.le_refl _
    · rfl
    · rw [inUse, hTool]
      rfl

/- Creating a tool is balanced where there is none. -/
theorem openTool_balanced
    (language : String)
    {s : Server τ ω}
    (hTool : s.tool = none) :
    Balanced engine s (s.openTool engine language).entries
      (s.openTool engine language).value.2 := by
  have hBefore : s.inUse = none := by
    rw [inUse, hTool]
    rfl
  have hCases := openTool_cases engine language s hTool
  have hLater :
      s.requests ≤
        (s.openTool engine language).value.2.requests := by
    rw [hCases.1]
    exact Nat.le_succ _
  rcases hCases with
    ⟨hRequests, hClosings,
      ⟨hNone, hCreated⟩ | ⟨_, hInUse, hCreated, _⟩⟩
  · apply balanced_of_created_nil hLater hCreated
    rw [hClosings, hBefore, inUse, hNone]
    rfl
  · refine ⟨hLater, ?_, ?_, ?_⟩
    · rw [hCreated, hRequests]
      intro n hMem
      rw [List.mem_singleton.mp hMem]
      exact ⟨Nat.le_refl _, Nat.lt_succ_self _⟩
    · rw [hCreated]
      exact List.pairwise_singleton _ _
    · rw [hCreated, hClosings, hBefore, hInUse]
      rfl

/- Taking over settings is balanced. -/
theorem configure_balanced
    (hClosable : engine.closable = true)
    (settings : Settings)
    (s : Server τ ω) :
    Balanced engine s (s.configure engine settings).entries
      (s.configure engine settings).value.2 := by
  have hClosed := closeTool_balanced hClosable s settings
  cases hLanguage : settings.language with
  | none =>
      rcases configure_of_none engine s hLanguage with
        ⟨hEntries, hValue⟩
      rw [hEntries, hValue]
      apply hClosed.trans
      exact Untouched.balanced engine
        ⟨idle_singleton () (isIdle_message _ _), rfl, rfl⟩
  | some language =>
      rcases configure_of_some engine s hLanguage with
        ⟨hEntries, hValue⟩
      rw [hEntries, hValue]
      exact hClosed.trans (openTool_balanced language rfl)

end Server

end ProseCheck

------------------------------------------------------------
-- Balanced Steps
------------------------------------------------------------

namespace ProseCheck

namespace Server

variable
  {τ ω : Type}
  [Workspace ω]
  {setting : Setting τ}
  {s : Server τ ω}

/- A check leaves the tool in use. -/
@[simp]
theorem inUse_withState
    (s : Server τ ω)
    (state : Option τ) :
    (s.withState state).inUse = s.inUse := by
  unfold withState
  split
  · rename_i hTool
    rw [inUse, inUse, hTool]
    rfl
  · rfl

/- It asks for no other. -/
@[simp]
theorem requests_withState
    (s : Server τ ω)
    (state : Option τ) :
    (s.withState state).requests = s.requests := by
  unfold withState
  split <;> rfl

/- Publishing a document does not touch the tool. -/
theorem publishDocument_untouched
    (setting : Setting τ)
    (uri : String)
    (document : Document)
    (s : Server τ ω) :
    let published := s.publishDocument setting uri document
    Untouched s published.entries published.value.2 := by
  intro published
  refine ⟨?_, ?_, ?_⟩
  · apply (idle_diagnose _ _ _ _ _ _).bind
    dsimp only
    split
    · apply (idle_singleton () (isIdle_publish _ _)).bind
      exact idle_pure _
    · exact idle_pure _
  · simp only [published, publishDocument,
      Recorded.value_bind]
    split
    · simp
    · simp
  · simp only [published, publishDocument,
      Recorded.value_bind]
    split
    · simp
    · simp

/- Nor does publishing the document with an address. -/
theorem publishIssues_untouched
    (setting : Setting τ)
    (uri : String)
    (s : Server τ ω) :
    Untouched s (s.publishIssues setting uri).entries
      (s.publishIssues setting uri).value.2 := by
  unfold publishIssues
  split
  · exact publishDocument_untouched setting uri _ s
  · exact untouched_pure _ s

/- Nor does publishing several documents. -/
theorem publishEach_untouched
    (setting : Setting τ)
    (uris : List String)
    (s : Server τ ω) :
    Untouched s (publishEach setting uris s).entries
      (publishEach setting uris s).value.2 := by
  induction uris generalizing s with
  | nil => exact untouched_pure _ s
  | cons uri uris ih =>
      unfold publishEach
      apply (publishIssues_untouched setting uri s).bind
      dsimp only
      split
      · exact ih _
      · exact untouched_pure _ _

/- Nor does publishing all of them. -/
theorem publishAll_untouched
    (setting : Setting τ)
    (s : Server τ ω) :
    Untouched s (s.publishAll setting).entries
      (s.publishAll setting).value.2 :=
  publishEach_untouched setting _ s

/- What is balanced stays so when it is given as an answer. -/
theorem Balanced.answer
    {ε : Type}
    {engine : Engine τ}
    {x : Recorded Effect (Except ε Unit × Server τ ω)}
    (wrap : ε → SessionError)
    (hBalanced : Balanced engine s x.entries x.value.2) :
    let answered := do return plainAnswer wrap (← x)
    Balanced engine s answered.entries answered.value.2 := by
  apply hBalanced.bind
  rw [Recorded.value_pure, plainAnswer_snd]
  exact balanced_pure engine () _

/- Documents are no matter for the balance of tools. -/
theorem Balanced.of_workspace
    {engine : Engine τ}
    {workspace : ω}
    {es : List Effect}
    {s' : Server τ ω}
    (hBalanced :
      Balanced engine { s with workspace } es s') :
    Balanced engine s es s' :=
  { requests := hBalanced.requests
    fresh := hBalanced.fresh
    ordered := hBalanced.ordered
    balance := hBalanced.balance }

/- Accepting edits is idle. -/
theorem idle_accept
    (arguments : List Json)
    (reply : ApplyReply) :
    (accept arguments reply).Idle := by
  unfold accept
  split
  · exact idle_pure _
  · exact idle_pure _
  · refine (allIdle_cons _ _).mpr ⟨trivial, ?_⟩
    split
    · exact allIdle_nil
    · simp

/- Taking over the settings of a payload is balanced. -/
theorem reconfigure_balanced
    (hClosable : setting.engine.closable = true)
    (payload : Json)
    (s : Server τ ω) :
    Balanced setting.engine s
      (s.reconfigure setting payload).entries
      (s.reconfigure setting payload).value.2 := by
  unfold reconfigure
  apply Balanced.after_idle (idle_logged _)
  split
  · exact balanced_pure _ _ _
  · rename_i settings _
    apply (configure_balanced hClosable settings s).bind
    dsimp only
    split
    · exact balanced_pure _ _ _
    · exact ((publishAll_untouched setting _).balanced
        setting.engine).answer id

/- Handling a message is balanced, whatever it is. -/
theorem handle_balanced
    (hClosable : setting.engine.closable = true)
    (s : Server τ ω)
    (m : Message) :
    Balanced setting.engine s
      (s.handle setting m).entries
      (s.handle setting m).value.2 := by
  cases m with
  | opened document =>
      apply Balanced.of_workspace
      exact ((publishIssues_untouched setting _ _).balanced
        setting.engine).answer id
  | changed uri version changes =>
      apply Balanced.of_workspace
      exact ((publishIssues_untouched setting _ _).balanced
        setting.engine).answer id
  | closed uri =>
      apply Untouched.balanced
      exact ⟨idle_singleton () (isIdle_publish _ _), rfl, rfl⟩
  | configured payload =>
      exact reconfigure_balanced hClosable payload s
  | commands request => exact balanced_pure _ _ _
  | accepted arguments reply =>
      apply Balanced.after_idle (idle_accept arguments reply)
      exact balanced_pure _ _ _
  | shutdown =>
      have hClosed :=
        closeTool_balanced hClosable s s.settings
      rw [← (closeTool_spec setting.engine s).1] at hClosed
      exact hClosed.trans (balanced_pure _ () _)

/- A step is balanced. -/
theorem perform_balanced
    (hClosable : setting.engine.closable = true)
    (s : Server τ ω)
    (step : Step) :
    Balanced setting.engine s
      (s.perform setting step).entries
      (s.perform setting step).value.2 := by
  cases step with
  | configure settings =>
      exact (configure_balanced hClosable settings s).answer
        .tool
  | message m => exact handle_balanced hClosable s m

/- So are any number of steps. -/
theorem performAll_balanced
    (hClosable : setting.engine.closable = true)
    (steps : List Step)
    (s : Server τ ω) :
    Balanced setting.engine s
      (s.performAll setting steps).entries
      (s.performAll setting steps).value := by
  induction steps generalizing s with
  | nil => exact balanced_pure setting.engine () s
  | cons step steps ih =>
      exact (perform_balanced hClosable s step).trans (ih _)

end Server

end ProseCheck

------------------------------------------------------------
-- Steps without a Tool
------------------------------------------------------------

namespace ProseCheck

/- The settings that a step makes a server take over. -/
def Step.settings? : Step → Option Settings
  | .configure settings => some settings
  | .message m => m.settings?

namespace Server

variable
  {τ ω : Type}
  [Workspace ω]
  {setting : Setting τ}
  {s s' : Server τ ω}

/- A tool that is not there is not touched. -/
theorem Untouched.tool_eq_none
    {es : List Effect}
    (hUntouched : Untouched s es s')
    (hTool : s.tool = none) :
    s'.tool = none := by
  have hInUse : s.inUse = none := by
    rw [Server.inUse, hTool]
    rfl
  rw [← hUntouched.inUse] at hInUse
  exact Option.map_eq_none_iff.mp hInUse

/-
  A step that takes over settings has come to nothing: they
  name no language, a tool could not be created, or this was
  an error.
-/
def ComesToNothing
    (engine : Engine τ)
    (settings : Settings)
    (done : Recorded Effect
      (Except SessionError Answer × Server τ ω)) : Prop :=
  settings.language = none ∨
    engine.FailsIn done.entries ∨
    ∃ e, done.value.1 = .error (.tool e)

/- Settings that are an error are taken over, and no more. -/
theorem reconfigure_of_error
    {payload : Json}
    {settings : Settings}
    (hSettings :
      (Settings.parse payload).value = some settings)
    {e : Failure}
    (hError :
      (s.configure setting.engine settings).value.1 =
        .error e) :
    let done := s.reconfigure setting payload
    let configured := s.configure setting.engine settings
    done.entries =
        (Settings.parse payload).logged.entries ++
          configured.entries ∧
      done.value = (.error (.tool e), configured.value.2) := by
  constructor
  · simp [reconfigure, Recorded.logged, Recorded.mapEntries,
      hSettings, hError]
  · simp [reconfigure, Recorded.logged, Recorded.mapEntries,
      hSettings, hError]

/- Other settings are taken over, and documents published. -/
theorem reconfigure_of_ok
    {payload : Json}
    {settings : Settings}
    (hSettings :
      (Settings.parse payload).value = some settings)
    (hOk :
      (s.configure setting.engine settings).value.1 =
        .ok ()) :
    let done := s.reconfigure setting payload
    let configured := s.configure setting.engine settings
    let published := configured.value.2.publishAll setting
    done.entries =
        (Settings.parse payload).logged.entries ++
          (configured.entries ++ published.entries) ∧
      done.value = plainAnswer id published.value := by
  constructor
  · simp [reconfigure, Recorded.logged, Recorded.mapEntries,
      hSettings, hOk]
  · simp [reconfigure, Recorded.logged, Recorded.mapEntries,
      hSettings, hOk]

/- Where publishing fails, this is no failure of a tool. -/
theorem publishIssues_ne_tool
    (setting : Setting τ)
    (uri : String)
    (s : Server τ ω)
    (e : Failure) :
    (s.publishIssues setting uri).value.1 ≠
      .error (.tool e) := by
  unfold publishIssues
  split
  · simp only [publishDocument, Recorded.value_bind]
    split
    · intro hSame
      cases hSame
    · intro hSame
      cases hSame
  · intro hSame
    cases hSame

/- Nor is it where one of several documents is concerned. -/
theorem publishEach_ne_tool
    (setting : Setting τ)
    (uris : List String)
    (s : Server τ ω)
    (e : Failure) :
    (publishEach setting uris s).value.1 ≠
      .error (.tool e) := by
  induction uris generalizing s with
  | nil =>
      intro hSame
      cases hSame
  | cons uri uris ih =>
      have hFirst := publishIssues_ne_tool setting uri s e
      simp only [publishEach, Recorded.value_bind]
      split
      · exact ih _
      · rename_i failure hFailure
        rw [hFailure] at hFirst
        exact hFirst

/- It stays so when it is given as an answer. -/
theorem plainAnswer_ne_tool
    {r : Except SessionError Unit × Server τ ω}
    {e : Failure}
    (hOther : r.1 ≠ .error (.tool e)) :
    (plainAnswer id r).1 ≠ .error (.tool e) := by
  unfold plainAnswer
  split
  · intro hSame
    cases hSame
  · rename_i failure hFailure
    rw [hFailure] at hOther
    intro hSame
    exact hOther (congrArg Except.error (Except.error.inj hSame))

/- There is no tool after settings that come to nothing. -/
theorem tool_reconfigure_eq_none
    {payload : Json}
    {settings : Settings}
    (hSettings :
      (Settings.parse payload).value = some settings)
    (hNothing :
      ComesToNothing setting.engine settings
        (s.reconfigure setting payload)) :
    (s.reconfigure setting payload).value.2.tool = none := by
  let configured := s.configure setting.engine settings
  have hTool :
      settings.language = none ∨
          setting.engine.FailsIn configured.entries ∨
          (∃ e, configured.value.1 = .error e) →
        configured.value.2.tool = none :=
    tool_configure_eq_none settings
  cases hDone : configured.value.1 with
  | error e =>
      rw [(reconfigure_of_error hSettings hDone).2]
      exact hTool (Or.inr (Or.inr ⟨e, hDone⟩))
  | ok done =>
      have hPublished :=
        publishAll_untouched setting configured.value.2
      rcases reconfigure_of_ok hSettings hDone with
        ⟨hEntries, hValue⟩
      rw [hValue, plainAnswer_snd]
      apply hPublished.tool_eq_none
      rw [ComesToNothing, hEntries, hValue,
        Engine.failsIn_append, Engine.failsIn_append]
        at hNothing
      rcases hNothing with
        hLanguage | (hLog | hFails | hLater) | ⟨e, hError⟩
      · exact hTool (Or.inl hLanguage)
      · exact absurd hLog
          (Engine.not_failsIn_of_idle (idle_logged _))
      · exact hTool (Or.inr (Or.inl hFails))
      · exact absurd hLater
          (Engine.not_failsIn_of_idle hPublished.idle)
      · exact absurd hError
          (plainAnswer_ne_tool
            (publishEach_ne_tool setting _ _ e))

/- A step that comes to nothing leaves no tool. -/
theorem tool_perform_eq_none
    {step : Step}
    {settings : Settings}
    (hSettings : step.settings? = some settings)
    (hNothing :
      ComesToNothing setting.engine settings
        (s.perform setting step)) :
    (s.perform setting step).value.2.tool = none := by
  cases step with
  | configure given =>
      cases hSettings
      let configured := s.configure setting.engine settings
      have hEntries :
          (s.perform setting (.configure settings)).entries =
            configured.entries := by
        simp [perform, configured]
      have hValue :
          (s.perform setting (.configure settings)).value =
            plainAnswer .tool configured.value := by
        simp [perform, configured]
      rw [hValue, plainAnswer_snd]
      apply tool_configure_eq_none settings
      rw [ComesToNothing, hEntries, hValue] at hNothing
      rcases hNothing with hLanguage | hFails | ⟨e, hError⟩
      · exact Or.inl hLanguage
      · exact Or.inr (Or.inl hFails)
      · refine Or.inr (Or.inr ?_)
        unfold plainAnswer at hError
        split at hError
        · cases hError
        · rename_i failure hFailure
          exact ⟨failure, hFailure⟩
  | message m =>
      cases m with
      | configured payload =>
          exact tool_reconfigure_eq_none hSettings hNothing
      | _ => cases hSettings

end Server

end ProseCheck

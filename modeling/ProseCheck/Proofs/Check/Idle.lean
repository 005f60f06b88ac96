import Mathlib.Tactic.Common
import ProseCheck.Check.Report

/-
  This file tells which effects have to do with the tools of
  an engine.  A tool is known by the number of the request
  that created it.  Checking a document, with all that may go
  wrong about it, neither asks for a tool nor closes one.

  Main declarations:
    * `Engine.created`
    * `closings`
    * `AllIdle`
    * `idle_diagnose`
-/

------------------------------------------------------------
-- Tools in Effects
------------------------------------------------------------

namespace ProseCheck

variable {τ : Type}

namespace Engine

/- The tool that an effect creates, unless it fails to. -/
def created?
    (engine : Engine τ) : Effect → Option Nat
  | .create serial request =>
      match engine.create serial request with
      | .ok _ => some serial
      | .error _ => none
  | _ => none

/- The tools that effects create, in their order. -/
def created
    (engine : Engine τ)
    (es : List Effect) : List Nat :=
  es.filterMap engine.created?

@[simp]
theorem created_append
    (engine : Engine τ)
    (es fs : List Effect) :
    engine.created (es ++ fs) =
      engine.created es ++ engine.created fs :=
  List.filterMap_append

end Engine

/- The tool that an effect closes. -/
def Effect.closed? : Effect → Option Nat
  | .close serial => some serial
  | _ => none

/- The tools that effects close, in their order. -/
def closings
    (es : List Effect) : List Nat :=
  es.filterMap Effect.closed?

@[simp]
theorem closings_append
    (es fs : List Effect) :
    closings (es ++ fs) = closings es ++ closings fs :=
  List.filterMap_append

end ProseCheck

------------------------------------------------------------
-- Idle Effects
------------------------------------------------------------

namespace ProseCheck

variable {τ α β : Type}

/- An effect that neither asks for a tool nor closes one. -/
def Effect.IsIdle : Effect → Prop
  | .create _ _ => False
  | .close _ => False
  | _ => True

/- Effects of which each one is idle. -/
def AllIdle
    (es : List Effect) : Prop :=
  ∀ e ∈ es, e.IsIdle

@[simp]
theorem isIdle_message
    (level : LogLevel)
    (text : String) :
    (Effect.message level text).IsIdle := trivial

@[simp]
theorem isIdle_pause
    (delay : Binary64) :
    (Effect.pause delay).IsIdle := trivial

@[simp]
theorem isIdle_check
    (text : Text) :
    (Effect.check text).IsIdle := trivial

@[simp]
theorem isIdle_publish
    (uri : String)
    (ds : List Diagnostic) :
    (Effect.publish uri ds).IsIdle := trivial

@[simp]
theorem allIdle_nil : AllIdle [] :=
  List.forall_mem_nil _

@[simp]
theorem allIdle_cons
    (e : Effect)
    (es : List Effect) :
    AllIdle (e :: es) ↔ e.IsIdle ∧ AllIdle es :=
  List.forall_mem_cons

@[simp]
theorem allIdle_append
    (es fs : List Effect) :
    AllIdle (es ++ fs) ↔ AllIdle es ∧ AllIdle fs :=
  List.forall_mem_append

/- Writing to the log is idle. -/
@[simp]
theorem allIdle_map_log
    (records : List LogRecord) :
    AllIdle (records.map Effect.log) := by
  intro e hMem
  rcases List.mem_map.mp hMem with ⟨record, _, rfl⟩
  trivial

/- Idle effects create no tools. -/
theorem AllIdle.created_eq_nil
    {es : List Effect}
    (hIdle : AllIdle es)
    (engine : Engine τ) :
    engine.created es = [] := by
  apply List.filterMap_eq_nil_iff.mpr
  intro e hMem
  cases e with
  | create serial request => exact (hIdle _ hMem).elim
  | _ => rfl

/- Idle effects close no tools. -/
theorem AllIdle.closings_eq_nil
    {es : List Effect}
    (hIdle : AllIdle es) :
    closings es = [] := by
  apply List.filterMap_eq_nil_iff.mpr
  intro e hMem
  cases e with
  | close serial => exact (hIdle _ hMem).elim
  | _ => rfl

/- A value comes about with idle effects only. -/
def Recorded.Idle
    (x : Recorded Effect α) : Prop :=
  AllIdle x.entries

/- A value that is there already has no effects. -/
theorem idle_pure
    (a : α) :
    (pure a : Recorded Effect α).Idle :=
  allIdle_nil

/- Two idle steps are an idle step. -/
theorem Recorded.Idle.bind
    {x : Recorded Effect α}
    {f : α → Recorded Effect β}
    (hFirst : x.Idle)
    (hRest : (f x.value).Idle) :
    (x >>= f).Idle :=
  (allIdle_append _ _).mpr ⟨hFirst, hRest⟩

/- A value whose effects are records is idle. -/
theorem idle_logged
    (x : Recorded LogRecord α) :
    x.logged.Idle :=
  allIdle_map_log x.entries

/- A single effect that is idle. -/
theorem idle_singleton
    (a : α)
    {e : Effect}
    (hIdle : e.IsIdle) :
    (⟨a, [e]⟩ : Recorded Effect α).Idle :=
  (allIdle_cons e []).mpr ⟨hIdle, allIdle_nil⟩

end ProseCheck

------------------------------------------------------------
-- Idle Checks
------------------------------------------------------------

namespace ProseCheck

variable {τ β : Type}

/- What is done about an attempt is idle. -/
theorem allIdle_attemptEffects
    (attempt : Nat)
    (outcome : Except Failure β)
    (delay : Option Binary64) :
    AllIdle (attemptEffects attempt outcome delay) := by
  unfold attemptEffects
  split
  · simp
  · split
    · simp
    · simp
  · simp

/- What is done in the course of attempts to check is idle. -/
theorem allIdle_runEffects
    (plain : Text)
    (attempt : Nat)
    (delays : List Binary64)
    (outcomes : List (Except Failure β)) :
    AllIdle
      (runEffects [.check plain] attempt delays
        outcomes) := by
  induction outcomes generalizing attempt delays with
  | nil => exact allIdle_nil
  | cons outcome outcomes ih =>
      have hAttempt :=
        allIdle_attemptEffects attempt outcome delays.head?
      rw [runEffects, allIdle_append, allIdle_append]
      exact ⟨⟨by simp, hAttempt⟩, ih _ _⟩

variable
  (engine : Engine τ)
  (backoff : Backoff Binary64)
  (words : List String)

/- Checking a plain text is idle. -/
theorem idle_checkPlain
    (tool : τ)
    (plain : Text) :
    (checkPlain engine backoff tool plain words).Idle := by
  unfold checkPlain
  dsimp only
  apply Recorded.Idle.bind
  · exact allIdle_runEffects plain 1 _ _
  split
  · exact idle_pure _
  · apply (idle_logged _).bind
    split
    · exact idle_pure _
    · exact idle_pure _

/- Checking a document is idle. -/
theorem idle_checkDocument
    (tool : τ)
    (document : Document) :
    (checkDocument engine backoff tool document
      words).Idle := by
  unfold checkDocument
  split
  · exact idle_pure _
  · dsimp only
    split
    · exact idle_pure _
    · apply (idle_checkPlain engine backoff words _ _).bind
      exact idle_pure _

/- Recovering from an error is idle. -/
theorem idle_recover
    (document : Document)
    (e : CheckError) :
    (recover document e).Idle := by
  unfold recover
  split
  · exact idle_pure _
  · exact idle_singleton _ (isIdle_message _ _)
  · split
    · exact idle_pure _
    split
    · exact idle_singleton _ (isIdle_message _ _)
    split
    · exact idle_singleton _ (isIdle_message _ _)
    · exact idle_pure _
  · exact idle_pure _
  · exact idle_pure _

/- Diagnosing a document is idle. -/
theorem idle_diagnoseWith
    (tool : τ)
    (document : Document)
    (encoding : Encoding) :
    (diagnoseWith engine backoff tool document words
      encoding).Idle := by
  unfold diagnoseWith
  apply (idle_checkDocument engine backoff words _ _).bind
  dsimp only
  split
  · apply (idle_logged _).bind
    exact idle_pure _
  · apply (idle_recover _ _).bind
    exact idle_pure _

/- That a document may need no diagnosis is no matter. -/
theorem idle_diagnose
    (tool : Option τ)
    (document : Document)
    (encoding : Encoding) :
    (diagnose engine backoff tool document words
      encoding).Idle := by
  unfold diagnose
  split
  · exact idle_pure _
  split
  · apply (idle_diagnoseWith engine backoff words _ _ _).bind
    exact idle_pure _
  · exact idle_pure _

end ProseCheck

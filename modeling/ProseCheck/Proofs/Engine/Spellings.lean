import Mathlib.Tactic.Common
import ProseCheck.Engine.Manager

/-
  This file says to which of its requests a manager adds the
  spellings.

  A call for a tool leads to one request, which is made before
  it is known whether the engine creates the tool.  From then
  on the spellings count as registered for the language.  So
  in a run of calls, exactly the first request for a language
  has them, and they are lost if the engine fails there: the
  first tool for the language is then created without them.

  Main declarations:
    * `Manager.attempts`
    * `Manager.buildTool_eq`
    * `Manager.mem_registered_registerAll`
    * `Manager.attempt_of_split`
    * `Manager.spellings_firstSuccess_iff`
-/

------------------------------------------------------------
-- Runs of Calls
------------------------------------------------------------

namespace ProseCheck

/- A call for a tool: its language, and rules of its own. -/
structure ToolCall where
  language : String
  extra : List String := []

/- What came of a call, and what the engine was asked for. -/
structure ToolAttempt
    (τ : Type) where
  call : ToolCall
  requests : List ToolRequest
  outcome : Except Failure (Tool τ)

/- The request that an effect makes. -/
def Effect.request? : Effect → Option ToolRequest
  | .create _ request => some request
  | _ => none

/- The requests among some effects, in their order. -/
def requestsIn
    (es : List Effect) : List ToolRequest :=
  es.filterMap Effect.request?

variable {τ : Type}

namespace ToolAttempt

/- The engine created the tool. -/
def Succeeds
    (a : ToolAttempt τ) : Prop :=
  ∃ t, a.outcome = .ok t

/- Two calls are for the same language. -/
def SameLanguage
    (a b : ToolAttempt τ) : Prop :=
  a.call.language = b.call.language

end ToolAttempt

namespace Manager

/-
  The attempts that calls lead to, one after the other, where
  the first of them is the request with the number `serial`.
-/
def attempts
    (engine : Engine τ)
    (m : Manager)
    (serial : Nat) : List ToolCall → List (ToolAttempt τ)
  | [] => []
  | c :: cs =>
      let built :=
        m.buildTool engine serial c.language c.extra
      ⟨c, requestsIn built.entries, built.value.1⟩ ::
        attempts engine built.value.2 (serial + 1) cs

/- The manager once requests for some languages were made. -/
def registerAll
    (m : Manager)
    (languages : List String) : Manager :=
  languages.foldl register m

end Manager

end ProseCheck

------------------------------------------------------------
-- One Call
------------------------------------------------------------

namespace ProseCheck

variable {τ : Type}

/- There are no requests among log records. -/
theorem requestsIn_map_log
    (records : List LogRecord) :
    requestsIn (records.map Effect.log) = [] := by
  induction records with
  | nil => rfl
  | cons r rs ih => exact ih

/- Requests are made in the one part or the other. -/
theorem requestsIn_append
    (es fs : List Effect) :
    requestsIn (es ++ fs) =
      requestsIn es ++ requestsIn fs :=
  List.filterMap_append

namespace Manager

variable
  {m : Manager}
  {language : String}

/- All that a call leaves besides its request is records. -/
theorem buildTool_entries
    (engine : Engine τ)
    (m : Manager)
    (serial : Nat)
    (language : String)
    (extra : List String) :
    ∃ records : List LogRecord,
      (m.buildTool engine serial language extra).entries =
        (m.registerRecords language).map Effect.log ++
          .create serial (m.request language) ::
            records.map Effect.log := by
  cases hCreate :
      engine.create serial (m.request language) with
  | error e =>
      refine ⟨[], ?_⟩
      simp [buildTool, hCreate, Recorded.addAll,
        Recorded.add]
  | ok state =>
      refine ⟨[m.createdRecord language extra], ?_⟩
      simp [buildTool, hCreate, Recorded.addAll,
        Recorded.add]

/-
  A call makes one request.  The engine answers it, and the
  language is registered in any case.
-/
theorem buildTool_eq
    (engine : Engine τ)
    (m : Manager)
    (serial : Nat)
    (language : String)
    (extra : List String) :
    let built := m.buildTool engine serial language extra
    requestsIn built.entries = [m.request language] ∧
      built.value =
        ((engine.create serial (m.request language)).map
            (m.toolOf serial extra),
          m.register language) := by
  intro built
  constructor
  · rcases buildTool_entries engine m serial language extra
      with ⟨records, hEntries⟩
    rw [hEntries, requestsIn_append, requestsIn_map_log]
    exact congrArg (m.request language :: ·)
      (requestsIn_map_log records)
  · cases hCreate :
        engine.create serial (m.request language) with
    | error e => simp [built, buildTool, hCreate, Except.map]
    | ok state =>
        simp [built, buildTool, hCreate, Except.map]

/- A run begins with the attempt of its first call. -/
theorem attempts_cons
    (engine : Engine τ)
    (m : Manager)
    (serial : Nat)
    (c : ToolCall)
    (cs : List ToolCall) :
    m.attempts engine serial (c :: cs) =
      ⟨c, [m.request c.language],
        (engine.create serial (m.request c.language)).map
          (m.toolOf serial c.extra)⟩ ::
        (m.register c.language).attempts engine
          (serial + 1) cs := by
  rcases m.buildTool_eq engine serial c.language c.extra with
    ⟨hRequests, hValue⟩
  rw [attempts, hRequests, hValue]

/- Registering a language changes nothing else. -/
theorem register_eq
    (m : Manager)
    (language : String) :
    ∃ known,
      m.register language = { m with registered := known } := by
  unfold register
  split
  · exact ⟨_, rfl⟩
  · exact ⟨m.registered, rfl⟩

/- In particular, the words stay as they are. -/
@[simp]
theorem words_register
    (m : Manager)
    (language : String) :
    (m.register language).words = m.words := by
  rcases m.register_eq language with ⟨known, hSame⟩
  rw [hSame]

/- The address of the engine stays as it is, too. -/
@[simp]
theorem remoteServer_register
    (m : Manager)
    (language : String) :
    (m.register language).remoteServer =
      m.remoteServer := by
  rcases m.register_eq language with ⟨known, hSame⟩
  rw [hSame]

/-
  Spellings are still to be registered if there are words, the
  engine is on this machine, and the language is a new one.
-/
theorem registers_iff :
    m.registers language = true ↔
      m.words ≠ [] ∧ m.remoteServer = none ∧
        language ∉ m.registered := by
  simp [registers, and_assoc]

/- A request passes the words if they are to be registered. -/
theorem spellings_request_iff
    {ws : List String} :
    (m.request language).spellings = some ws ↔
      m.registers language = true ∧ m.words = ws := by
  change
    (if m.registers language then some m.words else none) =
      some ws ↔ _
  rw [Option.ite_none_right_eq_some, Option.some_inj]

/- After a call, its language is registered, too. -/
theorem mem_registered_register
    (hWords : m.words ≠ [])
    (hLocal : m.remoteServer = none)
    {other : String} :
    other ∈ (m.register language).registered ↔
      other ∈ m.registered ∨ other = language := by
  unfold register
  split
  · simp
  · rename_i hKnown
    have hMem : language ∈ m.registered := by
      by_contra hNew
      exact hKnown
        (registers_iff.mpr ⟨hWords, hLocal, hNew⟩)
    constructor
    · exact Or.inl
    · rintro (hOld | rfl)
      · exact hOld
      · exact hMem

end Manager

end ProseCheck

------------------------------------------------------------
-- Many Calls
------------------------------------------------------------

namespace ProseCheck

variable {τ : Type}

namespace Manager

variable
  {m : Manager}

/- Calls change nothing but what is registered. -/
theorem registerAll_eq
    (m : Manager)
    (languages : List String) :
    ∃ known,
      m.registerAll languages =
        { m with registered := known } := by
  induction languages generalizing m with
  | nil => exact ⟨m.registered, rfl⟩
  | cons l ls ih =>
      rcases m.register_eq l with ⟨first, hFirst⟩
      rcases ih (m.register l) with ⟨known, hRest⟩
      refine ⟨known, hRest.trans ?_⟩
      rw [hFirst]

/- In any number of calls, the words stay as they are. -/
@[simp]
theorem words_registerAll
    (m : Manager)
    (languages : List String) :
    (m.registerAll languages).words = m.words := by
  rcases m.registerAll_eq languages with ⟨known, hSame⟩
  rw [hSame]

/- So does the address of the engine. -/
@[simp]
theorem remoteServer_registerAll
    (m : Manager)
    (languages : List String) :
    (m.registerAll languages).remoteServer =
      m.remoteServer := by
  rcases m.registerAll_eq languages with ⟨known, hSame⟩
  rw [hSame]

/- After some calls, their languages are registered. -/
theorem mem_registered_registerAll
    (hWords : m.words ≠ [])
    (hLocal : m.remoteServer = none)
    (languages : List String)
    {language : String} :
    language ∈ (m.registerAll languages).registered ↔
      language ∈ m.registered ∨ language ∈ languages := by
  induction languages generalizing m with
  | nil => simp [registerAll]
  | cons l ls ih =>
      have hRest :=
        ih (m := m.register l)
          (by rwa [words_register])
          (by rwa [remoteServer_register])
      rw [mem_registered_register hWords hLocal] at hRest
      rw [List.mem_cons, ← or_assoc]
      exact hRest

/-
  Each attempt of a run makes one request: the one that the
  manager makes after the calls before it.  The engine answers
  this request, and the number of the request is known, too.
-/
theorem attempt_of_split
    {engine : Engine τ}
    {serial : Nat}
    {calls : List ToolCall}
    {front back : List (ToolAttempt τ)}
    {a : ToolAttempt τ}
    (hRun :
      m.attempts engine serial calls = front ++ a :: back) :
    let n :=
      m.registerAll (front.map (fun b => b.call.language))
    let r := n.request a.call.language
    a.requests = [r] ∧
      a.outcome =
        (engine.create (serial + front.length) r).map
          (n.toolOf (serial + front.length)
            a.call.extra) := by
  induction front generalizing m serial calls with
  | nil =>
      cases calls with
      | nil => cases hRun
      | cons c cs =>
          rw [attempts_cons] at hRun
          rw [← (List.cons.inj hRun).1]
          exact ⟨rfl, rfl⟩
  | cons b bs ih =>
      cases calls with
      | nil => cases hRun
      | cons c cs =>
          rw [attempts_cons] at hRun
          rcases List.cons.inj hRun with ⟨hHead, hTail⟩
          have hRest := ih hTail
          have hSerial :
              serial + 1 + bs.length =
                serial + (b :: bs).length := by
            rw [List.length_cons]
            omega
          rw [hSerial] at hRest
          rw [← hHead] at hRest ⊢
          exact hRest

end Manager

end ProseCheck

------------------------------------------------------------
-- Spellings
------------------------------------------------------------

namespace ProseCheck

variable {τ : Type}

namespace Manager

/- Words that are not blank are spelled as they are meant. -/
theorem spellings_ne_nil
    {words : List (Option String)}
    (hWord : ∃ w, some w ∈ words ∧ strip w ≠ "") :
    spellings words ≠ [] := by
  rcases hWord with ⟨w, hMem, hText⟩
  apply List.ne_nil_of_mem (a := strip w)
  rw [spellings, mem_wordSet, List.mem_filter,
    List.mem_filterMap]
  exact ⟨⟨some w, hMem, rfl⟩, by simpa using hText⟩

/-
  After some calls, the words are passed exactly if there are
  any, the engine is on this machine, and none of these calls
  was for the same language.
-/
theorem spellings_request_registerAll_iff
    {m : Manager}
    (hFresh : m.registered = [])
    (languages : List String)
    (language : String)
    (ws : List String) :
    ((m.registerAll languages).request language).spellings =
        some ws ↔
      m.words = ws ∧ m.words ≠ [] ∧
        m.remoteServer = none ∧ language ∉ languages := by
  rw [spellings_request_iff, registers_iff,
    words_registerAll, remoteServer_registerAll, and_comm,
    and_congr_right_iff]
  intro _
  rw [and_congr_right_iff]
  intro hWords
  rw [and_congr_right_iff]
  intro hLocal
  rw [mem_registered_registerAll hWords hLocal, hFresh]
  simp

/-
  The request of an attempt has the spellings exactly if no
  attempt before it was for the same language.
-/
theorem spellings_of_attempts
    {m : Manager}
    (hWords : m.words ≠ [])
    (hLocal : m.remoteServer = none)
    (hFresh : m.registered = [])
    {engine : Engine τ}
    {serial : Nat}
    {calls : List ToolCall}
    {front back : List (ToolAttempt τ)}
    {a : ToolAttempt τ}
    (hRun :
      m.attempts engine serial calls = front ++ a :: back) :
    ∃ r, a.requests = [r] ∧
      r.language = a.call.language ∧
      ((∀ b ∈ front, ¬ b.SameLanguage a) →
        r.spellings = some m.words) ∧
      ((∃ b ∈ front, b.SameLanguage a) →
        r.spellings = none) := by
  let languages := front.map (fun b => b.call.language)
  let n := m.registerAll languages
  have hNew :
      a.call.language ∉ languages ↔
        ∀ b ∈ front, ¬ b.SameLanguage a := by
    simp [languages, ToolAttempt.SameLanguage]
  have hPassed :=
    spellings_request_registerAll_iff hFresh languages
      a.call.language
  refine ⟨n.request a.call.language,
    (attempt_of_split hRun).1, rfl, ?_, ?_⟩
  · intro hNone
    exact (hPassed m.words).mpr
      ⟨rfl, hWords, hLocal, hNew.mpr hNone⟩
  · rintro ⟨b, hMem, hSame⟩
    rw [Option.eq_none_iff_forall_ne_some]
    intro ws hSome
    rcases (hPassed ws).mp hSome with ⟨_, _, _, hFirst⟩
    exact hNew.mp hFirst b hMem hSame

end Manager

end ProseCheck

------------------------------------------------------------
-- Spellings of the First Tool
------------------------------------------------------------

namespace ProseCheck

variable {τ : Type}

namespace Manager

/-
  In any run of calls, the first tool that is created for a
  language is created with the spellings exactly if the engine
  did not fail for this language before.  The tools after it
  are created without them.
-/
theorem spellings_firstSuccess_iff
    (engine : Engine τ)
    (words : List (Option String))
    (rules : List String)
    (remote : Option String)
    (config : Option (List (String × Json)))
    (hWord : ∃ w, some w ∈ words ∧ strip w ≠ "")
    (hLocal : address? remote = none)
    (serial : Nat)
    (calls : List ToolCall) :
    let m := make words rules remote config
    ∀ front a back,
      m.attempts engine serial calls = front ++ a :: back →
      a.Succeeds →
      ∃ r, a.requests = [r] ∧
        r.language = a.call.language ∧
        ((∀ b ∈ front, b.SameLanguage a → ¬ b.Succeeds) →
          (r.spellings = some m.words ↔
            ¬ ∃ b ∈ front,
              b.SameLanguage a ∧ ¬ b.Succeeds)) ∧
        ((∃ b ∈ front, b.SameLanguage a ∧ b.Succeeds) →
          r.spellings = none) := by
  intro m front a back hRun hSucceeds
  rcases spellings_of_attempts (m := m)
      (spellings_ne_nil hWord) hLocal rfl hRun with
    ⟨r, hRequests, hLanguage, hFirst, hLater⟩
  refine ⟨r, hRequests, hLanguage, ?_, ?_⟩
  · intro hFailed
    constructor
    · rintro hSpellings ⟨b, hMem, hSame, _⟩
      rw [hLater ⟨b, hMem, hSame⟩] at hSpellings
      cases hSpellings
    · intro hNone
      apply hFirst
      intro b hMem hSame
      exact hNone ⟨b, hMem, hSame, hFailed b hMem hSame⟩
  · rintro ⟨b, hMem, hSame, _⟩
    exact hLater ⟨b, hMem, hSame⟩

end Manager

/- An engine that refuses the requests with some numbers. -/
def Engine.refusing
    (numbers : List Nat) : Engine Unit where
  create n _ :=
    if n ∈ numbers then .error ⟨.system, "no engine"⟩
    else .ok ()
  check s _ := (.ok [], s)

namespace Manager

/-
  A request for another language is refused.  Of the two tools
  that are created then, the first has the spellings.
-/
theorem spellings_firstSuccess_iff_other :
    let m := make [some " b ", none] [] (some "") none
    ∃ a b c,
      m.attempts (Engine.refusing [0]) 0
          [⟨"fr", []⟩, ⟨"en", []⟩, ⟨"en", ["RULE"]⟩] =
        [a, b, c] ∧
      ¬ a.Succeeds ∧ b.Succeeds ∧ c.Succeeds ∧
      (∃ r, b.requests = [r] ∧ r.spellings = some m.words) ∧
      ∃ r, c.requests = [r] ∧ r.spellings = none := by
  intro m
  have hWord :
      ∃ w, some w ∈ [some " b ", none] ∧ strip w ≠ "" :=
    ⟨" b ", by decide, by decide⟩
  have hRule := spellings_firstSuccess_iff
    (Engine.refusing [0]) _ [] (some "") none hWord rfl 0
    [⟨"fr", []⟩, ⟨"en", []⟩, ⟨"en", ["RULE"]⟩]
  obtain ⟨a, b, c, hRun, hFrench, hEnglish, hAgain, hA, hB,
      hC⟩ :
      ∃ a b c,
        m.attempts (Engine.refusing [0]) 0
            [⟨"fr", []⟩, ⟨"en", []⟩, ⟨"en", ["RULE"]⟩] =
          [a, b, c] ∧
        a.call.language = "fr" ∧ b.call.language = "en" ∧
        c.call.language = "en" ∧
        a.outcome = .error ⟨.system, "no engine"⟩ ∧
        b.Succeeds ∧ c.Succeeds :=
    ⟨_, _, _, rfl, rfl, rfl, rfl, rfl, ⟨_, rfl⟩, ⟨_, rfl⟩⟩
  have hOther : ¬ a.SameLanguage b := by
    rw [ToolAttempt.SameLanguage, hFrench, hEnglish]
    decide
  have hSame : b.SameLanguage c := by
    rw [ToolAttempt.SameLanguage, hEnglish, hAgain]
  refine ⟨a, b, c, hRun, ?_, hB, hC, ?_, ?_⟩
  · rintro ⟨t, hCreated⟩
    rw [hA] at hCreated
    cases hCreated
  · rcases hRule [a] b [c] hRun hB with
      ⟨r, hRequests, _, hFirst, _⟩
    refine ⟨r, hRequests, (hFirst ?_).mpr ?_⟩
    · intro d hMem hLanguage
      rw [List.mem_singleton.mp hMem] at hLanguage
      exact absurd hLanguage hOther
    · rintro ⟨d, hMem, hLanguage, _⟩
      rw [List.mem_singleton.mp hMem] at hLanguage
      exact hOther hLanguage
  · rcases hRule [a, b] c [] hRun hC with
      ⟨r, hRequests, _, _, hLater⟩
    exact ⟨r, hRequests, hLater ⟨b, by simp, hSame, hB⟩⟩

/-
  The first request for a language is refused.  The only tool
  for this language is then created without the spellings.
-/
theorem spellings_lost :
    let m := make [some "b"] [] none none
    ∃ a b,
      m.attempts (Engine.refusing [0]) 0
          [⟨"en", []⟩, ⟨"en", []⟩] = [a, b] ∧
      m.words ≠ [] ∧
      a.SameLanguage b ∧ ¬ a.Succeeds ∧ b.Succeeds ∧
      ∃ r, b.requests = [r] ∧ r.spellings = none := by
  intro m
  have hWords : m.words ≠ [] :=
    spellings_ne_nil ⟨"b", by decide, by decide⟩
  obtain ⟨a, b, hRun, hSame, hA, hB⟩ :
      ∃ a b,
        m.attempts (Engine.refusing [0]) 0
            [⟨"en", []⟩, ⟨"en", []⟩] = [a, b] ∧
        a.SameLanguage b ∧
        a.outcome = .error ⟨.system, "no engine"⟩ ∧
        b.Succeeds :=
    ⟨_, _, rfl, rfl, rfl, ⟨_, rfl⟩⟩
  refine ⟨a, b, hRun, hWords, hSame, ?_, hB, ?_⟩
  · rintro ⟨t, hCreated⟩
    rw [hA] at hCreated
    cases hCreated
  · have hSplit :
        m.attempts (Engine.refusing [0]) 0
            [⟨"en", []⟩, ⟨"en", []⟩] = [a] ++ b :: [] :=
      hRun
    rcases spellings_of_attempts hWords rfl rfl hSplit with
      ⟨r, hRequests, _, _, hLater⟩
    exact ⟨r, hRequests, hLater ⟨a, by simp, hSame⟩⟩

end Manager

end ProseCheck

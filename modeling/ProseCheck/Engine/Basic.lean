import ProseCheck.Engine.Failure
import ProseCheck.Issue.Finding

/-
  This file defines engines: what creates checking tools and
  lets them check texts.  A tool has a state, which a check
  may change.

  Key definitions include:
    * `ToolRequest`
    * `Engine`
    * `Tool`
-/

------------------------------------------------------------
-- Requests
------------------------------------------------------------

namespace ProseCheck

/- What an engine is told when it is to create a tool. -/
structure ToolRequest where
  language : String
  remoteServer : Option String := none
  config : Option (List (String × Json)) := none
  spellings : Option (List String) := none
deriving Repr

namespace ToolRequest

/- The options of a request, by their names. -/
def options
    (r : ToolRequest) : List (String × Json) :=
  let remote :=
    match r.remoteServer with
    | some address => [("remote_server", Json.str address)]
    | none => []
  let config :=
    match r.config with
    | some fields => [("config", Json.obj fields)]
    | none => []
  let spellings :=
    match r.spellings with
    | some ws =>
        [("newSpellings", Json.arr (ws.map .str)),
          ("new_spellings_persist", Json.bool false)]
    | none => []
  remote ++ config ++ spellings

end ToolRequest

end ProseCheck

------------------------------------------------------------
-- Engines and Tools
------------------------------------------------------------

namespace ProseCheck

/-
  An engine whose tools have states of type `τ`.  It is told
  how many tools it was asked for before, so that the same
  request may succeed at one time and fail at another.
-/
structure Engine
    (τ : Type) where
  create : Nat → ToolRequest → Except Failure τ
  check : τ → Text → Except Failure (List Finding) × τ
  closable : Bool := true

/-
  A tool in use: the number of the request that created it,
  its state, and the rules that it leaves out, if they were
  ever set.
-/
structure Tool
    (τ : Type) where
  serial : Nat
  state : τ
  disabledRules : Option (List String)
deriving Repr

end ProseCheck

/-
  This file defines log records, and values that come with
  records of what was done to obtain them.

  Key definitions include:
    * `LogRecord`
    * `Recorded`
    * `Recorded.add`
-/

------------------------------------------------------------
-- Log Records
------------------------------------------------------------

namespace ProseCheck

/- The importance of a log record. -/
inductive LogLevel where
  | debug
  | info
  | warning
  | error
deriving DecidableEq, Repr

namespace LogLevel

/- The name under which a level is written. -/
def name : LogLevel → String
  | .debug => "DEBUG"
  | .info => "INFO"
  | .warning => "WARNING"
  | .error => "ERROR"

end LogLevel

/- One message for whoever runs the program. -/
structure LogRecord where
  level : LogLevel
  message : String
deriving DecidableEq, Repr

end ProseCheck

------------------------------------------------------------
-- Recorded Values
------------------------------------------------------------

namespace ProseCheck

/-
  A value together with the entries that were recorded on
  the way to it, oldest first.
-/
structure Recorded
    (ω α : Type) where
  value : α
  entries : List ω

namespace Recorded

variable {ω α β : Type}

/- Record one entry. -/
def add
    (entry : ω) : Recorded ω Unit :=
  ⟨(), [entry]⟩

/- Record several entries, oldest first. -/
def addAll
    (entries : List ω) : Recorded ω Unit :=
  ⟨(), entries⟩

instance : Monad (Recorded ω) where
  pure a := ⟨a, []⟩
  bind x f :=
    let y := f x.value
    ⟨y.value, x.entries ++ y.entries⟩

/- Read every entry as an entry of another type. -/
def mapEntries
    {ψ : Type}
    (f : ω → ψ)
    (x : Recorded ω α) : Recorded ψ α :=
  ⟨x.value, x.entries.map f⟩

@[simp]
theorem value_pure
    (a : α) :
    (pure a : Recorded ω α).value = a := rfl

@[simp]
theorem entries_pure
    (a : α) :
    (pure a : Recorded ω α).entries = [] := rfl

@[simp]
theorem value_bind
    (x : Recorded ω α)
    (f : α → Recorded ω β) :
    (x >>= f).value = (f x.value).value := rfl

@[simp]
theorem entries_bind
    (x : Recorded ω α)
    (f : α → Recorded ω β) :
    (x >>= f).entries =
      x.entries ++ (f x.value).entries := rfl

end Recorded

end ProseCheck

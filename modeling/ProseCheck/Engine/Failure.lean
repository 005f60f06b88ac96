/-
  This file defines the failures of a checking tool.  Some of
  them pass, so that it is worth while to try again.

  A failure is of one kind and may belong to several classes.
  It is the classes that decide what becomes of it.

  Key definitions include:
    * `FailureClass`
    * `FailureKind`
    * `Failure`
    * `Failure.isTransient`
-/

------------------------------------------------------------
-- Kinds of Failures
------------------------------------------------------------

namespace ProseCheck

/-
  The classes of failures that are told apart: of the engine,
  of the system, of a value, of a type of content that is not
  known, and of a text that cannot be annotated.
-/
inductive FailureClass where
  | tool
  | system
  | value
  | content
  | markup
deriving DecidableEq, Repr

/- The kinds of failures. -/
inductive FailureKind where
  | tool
  | system
  | connection
  | refused
  | timeout
  | value
  | type
  | key
  | runtime
  | interrupt
  | content
  | markup
  | nesting
  | other
      (name : String)
      (classes : List FailureClass)
deriving DecidableEq, Repr

namespace FailureKind

/- The name under which a kind is reported. -/
def name : FailureKind → String
  | .tool => "LanguageToolError"
  | .system => "OSError"
  | .connection => "ConnectionError"
  | .refused => "ConnectionRefusedError"
  | .timeout => "TimeoutError"
  | .value => "ValueError"
  | .type => "TypeError"
  | .key => "KeyError"
  | .runtime => "RuntimeError"
  | .interrupt => "KeyboardInterrupt"
  | .content => "UnsupportedContentType"
  | .markup => "AnnotationError"
  | .nesting => "UnsupportedNesting"
  | .other name _ => name

/-
  The classes that a kind belongs to.  What is wrong with a
  document is wrong with a value, too.
-/
def classes : FailureKind → List FailureClass
  | .tool => [.tool]
  | .system => [.system]
  | .connection => [.system]
  | .refused => [.system]
  | .timeout => [.system]
  | .value => [.value]
  | .type => []
  | .key => []
  | .runtime => []
  | .interrupt => []
  | .content => [.value, .content]
  | .markup => [.value, .markup]
  | .nesting => [.value, .markup]
  | .other _ classes => classes

/- Whether a kind belongs to a class. -/
def isA
    (k : FailureKind)
    (c : FailureClass) : Bool :=
  k.classes.contains c

/-
  Whether a failure is one of the system: of a file, of a
  connection, or of a time that ran out.
-/
def isSystem
    (k : FailureKind) : Bool :=
  k.isA .system

/- Whether a failure may be gone at the next attempt. -/
def isTransient
    (k : FailureKind) : Bool :=
  k.isA .tool || k.isSystem

end FailureKind

end ProseCheck

------------------------------------------------------------
-- Names of Kinds
------------------------------------------------------------

namespace ProseCheck

namespace FailureKind

/- The kinds that are told apart by themselves. -/
def named : List FailureKind :=
  [.tool, .system, .connection, .refused, .timeout, .value,
    .type, .key, .runtime, .interrupt, .content, .markup,
    .nesting]

/- The names of other failures of the system. -/
def systemNames : List String :=
  ["BlockingIOError", "BrokenPipeError", "ChildProcessError",
    "ConnectionAbortedError", "ConnectionResetError",
    "FileExistsError", "FileNotFoundError",
    "InterruptedError", "IsADirectoryError",
    "NotADirectoryError", "PermissionError",
    "ProcessLookupError"]

/- The names of other failures of a value. -/
def valueNames : List String :=
  ["UnicodeError", "UnicodeDecodeError",
    "UnicodeEncodeError", "UnicodeTranslateError"]

/- The classes of a kind that has only a name. -/
def classesOfName
    (name : String) : List FailureClass :=
  if systemNames.contains name then [.system]
  else if valueNames.contains name then [.value]
  else []

/- The kind of a name. -/
def ofName
    (name : String) : FailureKind :=
  (named.find? (fun k => k.name == name)).getD
    (.other name (classesOfName name))

end FailureKind

end ProseCheck

------------------------------------------------------------
-- Failures
------------------------------------------------------------

namespace ProseCheck

/- A failure, with its wording. -/
structure Failure where
  kind : FailureKind
  message : String
deriving DecidableEq, Repr

namespace Failure

/- Whether a failure may be gone at the next attempt. -/
def isTransient
    (f : Failure) : Bool :=
  f.kind.isTransient

end Failure

end ProseCheck

import ProseCheck.Check.IgnoredWords
import ProseCheck.Engine.Manager
import ProseCheck.Tree.Select

/-
  This file lists by name what the checking of documents
  offers to others.

  Key definitions include:
    * `version`
    * `Catalog.find?`
-/

------------------------------------------------------------
-- Catalog
------------------------------------------------------------

namespace ProseCheck

/- The version of the program. -/
def version : String :=
  "0.1.0"

/- What a name in the catalog stands for. -/
inductive CatalogEntry where
  | words (ws : List String)
  | named (name : String)
deriving DecidableEq, Repr

namespace Catalog

/- Everything that is offered, in the order of the names. -/
def entries : List (String × CatalogEntry) :=
  [("DEFAULT_DISABLED_RULES",
      .words (wordSet Manager.defaultDisabledRules)),
    ("DEFAULT_IGNORED_WORDS",
      .words (wordSet defaultIgnoredWords)),
    ("DocumentReport", .named "DocumentReport"),
    ("LanguageToolManager", .named "LanguageToolManager"),
    ("check_document", .named "check_document"),
    ("diagnose_document", .named "diagnose_document")]

/- The names of what is offered. -/
def names : List String :=
  entries.map (·.1)

/- What a name stands for, if it is offered. -/
def find?
    (name : String) : Option CatalogEntry :=
  (entries.find? (fun e => e.1 == name)).map (·.2)

/- The names of the families of contents. -/
def contentTypes : List String :=
  ContentType.all.map ContentType.name

end Catalog

end ProseCheck

import ProseCheck.Text.Basic

/-
  This file defines documents: what an editor holds open, as
  it was at some moment.

  Key definitions include:
    * `Document`
    * `Document.hasSupportedScheme`
    * `DocumentId`
-/

------------------------------------------------------------
-- Documents
------------------------------------------------------------

namespace ProseCheck

/- The name of a document, with the version that is meant. -/
structure DocumentId where
  uri : String
  version : Option Int
deriving DecidableEq, Repr

/- A snapshot of a document that an editor holds open. -/
structure Document where
  uri : String
  version : Option Int
  text : Text
  languageId : String
deriving DecidableEq, Repr

namespace Document

/- The language of a document that names none. -/
def defaultLanguage : String :=
  "plaintext"

/- The snapshot of a document.  It need not name a language. -/
def ofEditor
    (uri : String)
    (version : Option Int)
    (text : Text)
    (languageId : Option String) : Document :=
  let named := languageId.getD ""
  ⟨uri, version, text,
    if named.isEmpty then defaultLanguage else named⟩

/- The starts of the addresses that are checked. -/
def supportedSchemes : List String :=
  ["file:", "untitled:"]

/-
  Whether a document is checked at all.  Other addresses are
  views of documents that are checked elsewhere.
-/
def hasSupportedScheme
    (d : Document) : Bool :=
  supportedSchemes.any
    (fun s => s.toList.isPrefixOf d.uri.toList)

/- The name of a document with the version of the snapshot. -/
def identifier
    (d : Document) : DocumentId :=
  ⟨d.uri, d.version⟩

end Document

end ProseCheck

import ProseCheck.Server.Workspace

/-
  This file says which documents are open after one is
  opened, changed or closed, and which addresses are checked.

  Main declarations:
    * `Workspace.get?_put_self`
    * `HasCheckedScheme`
-/

------------------------------------------------------------
-- Open Documents
------------------------------------------------------------

namespace ProseCheck

namespace Workspace

variable {ω : Type} [Workspace ω]

/- A document that is opened is open. -/
theorem get?_put_self
    (w : ω)
    (d : Document) :
    get? (put w d) d.uri =
      some { d with uri := key d.uri } := by
  rw [get?_put, if_pos rfl]

/- A document that is closed is not open. -/
theorem get?_erase_self
    (w : ω)
    (uri : String) :
    get? (erase w uri) uri = none := by
  rw [get?_erase, if_pos rfl]

/- A document that is changed is open if it was before. -/
theorem get?_change_self
    (w : ω)
    (e : Encoding)
    (uri : String)
    (version : Option Int)
    (changes : List TextChange) :
    get? (change w e uri version changes) uri =
      (get? w uri).map (changed e version changes) := by
  rw [get?_change, if_pos rfl]

end Workspace

end ProseCheck

------------------------------------------------------------
-- Checked Addresses
------------------------------------------------------------

namespace ProseCheck

/- The address is one of those that are checked. -/
def HasCheckedScheme
    (uri : String) : Prop :=
  ∃ scheme ∈ Document.supportedSchemes,
    scheme.toList <+: uri.toList

/- A document is checked where its address is. -/
theorem hasSupportedScheme_iff
    (d : Document) :
    d.hasSupportedScheme = true ↔ HasCheckedScheme d.uri := by
  simp [Document.hasSupportedScheme, HasCheckedScheme]

end ProseCheck

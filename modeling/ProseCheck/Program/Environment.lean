import ProseCheck.Program.Assignment

/-
  This file defines environments: named values that a program
  finds where it is started, and that a file may add to.  A
  value in the file may refer to a variable by its name, and
  may give a text for the case that there is none.

  Key definitions include:
    * `Environment`
    * `Environment.setting?`
    * `Environment.expand`
    * `Environment.extend`
-/

------------------------------------------------------------
-- Environments
------------------------------------------------------------

namespace ProseCheck

/- The values of variables, by their names. -/
abbrev Environment :=
  List (String × String)

namespace Environment

/- The value of a variable. -/
def get?
    (e : Environment)
    (name : String) : Option String :=
  (e.find? (fun v => v.1 == name)).map (·.2)

/- What the names of the settings of the program begin with. -/
def namePrefix : String :=
  "LANGUAGETOOL_LS_"

/- A setting of the program.  A blank one counts as none. -/
def setting?
    (e : Environment)
    (name : String) : Option String :=
  match e.get? (namePrefix ++ name) with
  | none => none
  | some value =>
      let value := strip value
      if value.isEmpty then none else some value

end Environment

end ProseCheck

------------------------------------------------------------
-- References
------------------------------------------------------------

namespace ProseCheck

/-
  A reference to a variable, the text that stands in where
  there is no such variable, and the number of characters
  that the reference takes.
-/
structure Reference where
  name : Text
  fallback : Text
  length : Nat
deriving DecidableEq, Repr

/- The mark that ends a reference. -/
def referenceEnd : Char :=
  '\x7d'

/- Whether a character may stand in the name of a reference. -/
def isReferenceChar
    (c : Char) : Bool :=
  c != ':' && c != referenceEnd

/- The reference at the start of a text. -/
def readReference? : Text → Option Reference
  | '$' :: '\x7b' :: cs =>
      let name := cs.takeWhile isReferenceChar
      match cs.dropWhile isReferenceChar with
      | ':' :: '-' :: rest =>
          let fallback := rest.takeWhile (· != referenceEnd)
          if fallback.length < rest.length then
            some ⟨name, fallback,
              name.length + fallback.length + 5⟩
          else
            none
      | c :: _ =>
          if c == referenceEnd then
            some ⟨name, [], name.length + 3⟩
          else
            none
      | [] => none
  | _ => none

/-
  Replace the references in a text.  The counter `skip` is
  the rest of the reference that was replaced last.
-/
def expandFrom
    (value : Reference → Text)
    (skip : Nat) : Text → Text
  | [] => []
  | c :: cs =>
      match skip with
      | skip + 1 => expandFrom value skip cs
      | 0 =>
          match readReference? (c :: cs) with
          | some r =>
              value r ++ expandFrom value (r.length - 1) cs
          | none => c :: expandFrom value 0 cs

end ProseCheck

------------------------------------------------------------
-- Files
------------------------------------------------------------

namespace ProseCheck

namespace Environment

/-
  The text of a reference, where `known` holds the earlier
  assignments of the file, the last one first.  A variable
  of the environment comes before one of the file.
-/
def referenced
    (e : Environment)
    (known : List Assignment)
    (r : Reference) : Text :=
  match e.get? r.name.asString with
  | some value => Text.ofString value
  | none =>
      match known.find? (fun a => a.1 == r.name) with
      | some (_, value) => value.getD []
      | none => r.fallback

/- Replace the references in the values of assignments. -/
def expand
    (e : Environment)
    (known : List Assignment) :
    List Assignment → List Assignment
  | [] => []
  | (name, value) :: as =>
      let value :=
        value.map (expandFrom (e.referenced known) 0)
      (name, value) :: expand e ((name, value) :: known) as

/- The last assignment to each name. -/
def lastAssignments : List Assignment → List Assignment
  | [] => []
  | a :: as =>
      if as.any (fun b => b.1 == a.1) then
        lastAssignments as
      else
        a :: lastAssignments as

/- The values that assignments give in the end. -/
def assigned
    (as : List Assignment) : Environment :=
  (lastAssignments as).filterMap
    (fun a => a.2.map (fun v => (a.1.asString, v.asString)))

/-
  An environment with the assignments of a file.  Variables
  that have a value keep it, even an empty one.
-/
def extend
    (e : Environment)
    (file : Option Text) : Environment :=
  e ++ assigned (e.expand [] (readAssignments (file.getD [])))

end Environment

end ProseCheck

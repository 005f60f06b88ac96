import ProseCheck.Text.Basic

/-
  This file tidies up the paths of files: what names no part
  of a path is left out.  Steps upward stay, since they may
  lead elsewhere.

  Key definitions include:
    * `splitOnChar`
    * `tidyPath`
-/

------------------------------------------------------------
-- Paths
------------------------------------------------------------

namespace ProseCheck

/- The parts of a text between the occurrences of a mark. -/
def splitOnChar
    (mark : Char) : Text → List Text
  | [] => [[]]
  | c :: cs =>
      match splitOnChar mark cs with
      | part :: parts =>
          if c == mark then [] :: part :: parts
          else (c :: part) :: parts
      | [] => [[c]]

/-
  The root that a path starts at.  Two slashes in front mean
  something else than one; more of them mean one.
-/
def pathRoot
    (t : Text) : Text :=
  match (t.takeWhile (· == '/')).length with
  | 0 => []
  | 2 => ['/', '/']
  | _ => ['/']

/- A path without empty parts and parts that stay in place. -/
def tidyPath
    (path : String) : String :=
  let t := Text.ofString path
  let parts :=
    (splitOnChar '/' (t.dropWhile (· == '/'))).filter
      (fun p => !p.isEmpty && p != ['.'])
  let tidy :=
    pathRoot t ++ List.intercalate ['/'] parts
  if tidy.isEmpty then "." else Text.asString tidy

end ProseCheck

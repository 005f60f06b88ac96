import ProseCheck.Text.Basic

/-
  This file defines blank characters, the trimming of texts
  at both ends, and the folding of blank runs.

  Key definitions include:
    * `isBlank`
    * `Text.strip`
    * `strip`
    * `Text.collapse`
-/

------------------------------------------------------------
-- Blank Characters
------------------------------------------------------------

namespace ProseCheck

/-
  The characters that trimming removes: the Unicode spaces,
  the line and paragraph separators, and the control
  characters that separate lines, pages or fields.
-/
def isBlank
    (c : Char) : Bool :=
  let n := c.toNat
  (0x09 ≤ n && n ≤ 0x0D) || (0x1C ≤ n && n ≤ 0x20) ||
    n == 0x85 || n == 0xA0 || n == 0x1680 ||
    (0x2000 ≤ n && n ≤ 0x200A) ||
    n == 0x2028 || n == 0x2029 || n == 0x202F ||
    n == 0x205F || n == 0x3000

end ProseCheck

------------------------------------------------------------
-- Trimming
------------------------------------------------------------

namespace ProseCheck

namespace Text

/- Remove the characters of a class from both ends. -/
def trim
    (drop : Char → Bool)
    (t : Text) : Text :=
  ((t.dropWhile drop).reverse.dropWhile drop).reverse

/- Remove the characters of a class from the end. -/
def trimEnd
    (drop : Char → Bool)
    (t : Text) : Text :=
  (t.reverse.dropWhile drop).reverse

/- Remove the blank characters at both ends. -/
def strip
    (t : Text) : Text :=
  t.trim isBlank

/-
  Replace each run of blank characters by one space.  The
  flag says that the character before was blank.
-/
def collapseFrom
    (afterBlank : Bool) : Text → Text
  | [] => []
  | c :: cs =>
      if isBlank c then
        if afterBlank then collapseFrom true cs
        else ' ' :: collapseFrom true cs
      else
        c :: collapseFrom false cs

/- Replace each run of blank characters by one space. -/
def collapse
    (t : Text) : Text :=
  collapseFrom false t

end Text

/- Remove the blank characters at both ends of a string. -/
def strip
    (s : String) : String :=
  (Text.ofString s).strip.asString

end ProseCheck

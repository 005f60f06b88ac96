import ProseCheck.Issue.Basic
import ProseCheck.Text.Letter
import ProseCheck.Text.WordSet

/-
  This file decides which issues are left out because they
  are about a word that is to be ignored.

  Key definitions include:
    * `ignoredWords`
    * `isIgnored`
    * `keepIssues`
-/

------------------------------------------------------------
-- Ignored Words
------------------------------------------------------------

namespace ProseCheck

/- The words that are always ignored. -/
def defaultIgnoredWords : List String :=
  ["LanguageTool", "Markdown"]

/- The words to ignore, some of them beyond the usual ones. -/
def ignoredWords
    (extra : List String) : List String :=
  wordSet (defaultIgnoredWords ++ extra)

/- The letters of a text. -/
def letters
    (t : Text) : Text :=
  t.filter isLetter

/- A text without the small s at its end. -/
def singular
    (t : Text) : Text :=
  t.trimEnd (· == 's')

/-
  Whether letters make up an acronym: capitals all of them,
  or all but an s at the end.
-/
def isAcronym
    (letters : Text) : Bool :=
  letters.allCapitals || (singular letters).allCapitals

/-
  Whether a text is one of some words.  Its blank ends do not
  count, and of an acronym only the letters do, with or
  without the s of the plural.
-/
def isIgnored
    (words : List String)
    (matched : Text) : Bool :=
  let word := matched.strip
  let acronym := letters word
  if word.isEmpty then
    false
  else if isAcronym acronym then
    words.contains acronym.asString ||
      words.contains (singular acronym).asString
  else
    words.contains word.asString

end ProseCheck

------------------------------------------------------------
-- Issues
------------------------------------------------------------

namespace ProseCheck

/- The part of a plain text that an issue is about. -/
def Issue.matched
    (i : Issue)
    (plain : Text) : Text :=
  plain.slice i.start i.stop

/- The issues that are not about a word to ignore. -/
def keepIssues
    (words : List String)
    (plain : Text)
    (issues : List Issue) : List Issue :=
  issues.filter (fun i => !isIgnored words (i.matched plain))

end ProseCheck

import ProseCheck.Text.Blank

/-
  This file reads the files that add variables to an
  environment: lines with a name, an equals sign and a value,
  which may stand in quotes.

  A line that is none of these is passed over.  It ends where
  the line ends on which reading came to a halt, which need
  not be the line on which it began.

  Key definitions include:
    * `Assignment`
    * `readValue`
    * `readAssignments`
-/

------------------------------------------------------------
-- Characters
------------------------------------------------------------

namespace ProseCheck

/- Whether a character ends a line of a file. -/
def endsFileLine
    (c : Char) : Bool :=
  c == '\r' || c == '\n'

/- Whether a character is blank and does not end a line. -/
def isInlineBlank
    (c : Char) : Bool :=
  isBlank c && !endsFileLine c

/- Whether a character may stand in a name without quotes. -/
def isNameChar
    (c : Char) : Bool :=
  c != '=' && c != '#' && !isBlank c

/- The characters for which a letter stands in an escape. -/
def escapedChar
    (c : Char) : Char :=
  match c with
  | 'a' => Char.ofNat 7
  | 'b' => Char.ofNat 8
  | 'f' => Char.ofNat 12
  | 'n' => '\n'
  | 'r' => '\r'
  | 't' => '\t'
  | 'v' => Char.ofNat 11
  | c => c

/- The characters that may be escaped between quotes. -/
def isEscapable
    (quote c : Char) : Bool :=
  if quote == '"' then "\\'\"abfnrtv".toList.contains c
  else c == '\\' || c == '\''

end ProseCheck

------------------------------------------------------------
-- Names
------------------------------------------------------------

namespace ProseCheck

/- A text without the word that marks an export. -/
def dropExport
    (t : Text) : Text :=
  let rest := t.drop 6
  if "export".toList.isPrefixOf t &&
      (rest.head?.map isInlineBlank).getD false then
    rest.dropWhile isInlineBlank
  else
    t

/-
  The name at the start of a text and what follows it, or
  else the text at which reading came to a halt.
-/
def readName
    (t : Text) : Except Text (Text × Text) :=
  match t with
  | '\'' :: cs =>
      let name := cs.takeWhile (· != '\'')
      let rest := cs.dropWhile (· != '\'')
      if name.isEmpty || rest.isEmpty then .error t
      else .ok (name, rest.drop 1)
  | t =>
      let name := t.takeWhile isNameChar
      if name.isEmpty then .error t
      else .ok (name, t.dropWhile isNameChar)

end ProseCheck

------------------------------------------------------------
-- Values
------------------------------------------------------------

namespace ProseCheck

/- A quoted value, with the characters that escapes mean. -/
def unescapeValue
    (quote : Char) : Text → Text
  | [] => []
  | [c] => [c]
  | c :: d :: cs =>
      if c == '\\' && isEscapable quote d then
        escapedChar d :: unescapeValue quote cs
      else
        c :: unescapeValue quote (d :: cs)

/-
  The text up to the closing quote, and what follows that.  A
  quote behind a backslash closes nothing, unless there is no
  other one to close with.
-/
def readQuoted?
    (quote : Char) : Text → Option (Text × Text)
  | [] => none
  | [c] => if c == quote then some ([], []) else none
  | c :: d :: cs =>
      if c == quote then
        some ([], d :: cs)
      else if c == '\\' && d == quote then
        match readQuoted? quote cs with
        | some (value, rest) => some (c :: d :: value, rest)
        | none => some ([c], cs)
      else
        (readQuoted? quote (d :: cs)).map
          (fun r => (c :: r.1, r.2))

/- The value between quotes behind an opening quote. -/
def readQuotedValue
    (quote : Char)
    (t : Text) : Except Text (Text × Text) :=
  match readQuoted? quote t with
  | some (value, rest) =>
      .ok (unescapeValue quote value, rest)
  | none => .error (quote :: t)

/-
  A value without quotes and without its comment.  A comment
  has a blank character in front of its mark.
-/
def withoutComment : Text → Text
  | [] => []
  | c :: cs =>
      if isBlank c &&
          (cs.dropWhile isBlank).head? == some '#' then
        []
      else
        c :: withoutComment cs

/- The value at the start of a text. -/
def readValue : Text → Except Text (Text × Text)
  | '\'' :: cs => readQuotedValue '\'' cs
  | '"' :: cs => readQuotedValue '"' cs
  | cs =>
      let line := cs.takeWhile (fun c => !endsFileLine c)
      .ok ((withoutComment line).trimEnd isBlank,
        cs.dropWhile (fun c => !endsFileLine c))

end ProseCheck

------------------------------------------------------------
-- Assignments
------------------------------------------------------------

namespace ProseCheck

/- A name, and the value that a line gives it, if it does. -/
abbrev Assignment :=
  Text × Option Text

/- What is left of a line behind its end. -/
def dropLine
    (t : Text) : Text :=
  t.dropWhile (fun c => !endsFileLine c)

/- A text without the comment at its start. -/
def dropComment
    (t : Text) : Text :=
  match t.dropWhile isInlineBlank with
  | '#' :: cs => dropLine cs
  | _ => t

/- What follows a line, if the line holds nothing more. -/
def readLineEnd
    (t : Text) : Except Text Text :=
  match t.dropWhile isInlineBlank with
  | [] => .ok []
  | c :: cs => if endsFileLine c then .ok cs else .error t

/- The value behind a name, if there is an equals sign. -/
def readAssigned
    (t : Text) : Except Text (Option Text × Text) :=
  match t.dropWhile isInlineBlank with
  | '=' :: cs => do
      let (value, rest) ←
        readValue (cs.dropWhile isInlineBlank)
      return (some value, rest)
  | rest => .ok (none, rest)

/- The assignment or the comment at the start of a text. -/
def readLine
    (t : Text) :
    Except Text (Option Assignment × Text) := do
  if t.head? == some '#' then
    return (none, ← readLineEnd (dropComment t))
  let (name, rest) ← readName (dropExport t)
  let (value, rest) ← readAssigned rest
  return (some (name, value),
    ← readLineEnd (dropComment rest))

/-
  The assignments of a file.  At each step some of the text
  is used up, and `fuel` bounds the number of steps.
-/
def readAssignmentsFrom : Nat → Text → List Assignment
  | 0, _ => []
  | fuel + 1, t =>
      let t := t.dropWhile isBlank
      if t.isEmpty then
        []
      else
        match readLine t with
        | .ok (assignment, rest) =>
            assignment.toList ++ readAssignmentsFrom fuel rest
        | .error rest =>
            readAssignmentsFrom fuel (dropLine rest)

/- The assignments of a file. -/
def readAssignments
    (t : Text) : List Assignment :=
  readAssignmentsFrom (t.length + 1) t

end ProseCheck

import ProseCheck.Json.Shown
import ProseCheck.Number.Numeral
import ProseCheck.Program.Path

/-
  This file reads the arguments with which the program is
  started.  An option may be cut short as long as no other
  one begins in the same way, its value may follow it or
  stand behind an equals sign, and two dashes end the
  options.  The two other arguments, a port and a host, are
  taken together where the first of them stands.

  Key definitions include:
    * `Argument`
    * `Item`
    * `ArgumentError`
    * `RawOptions.ofArguments`
-/

------------------------------------------------------------
-- Options
------------------------------------------------------------

namespace ProseCheck

/- The options without a value. -/
inductive Flag where
  | help
  | stdio
  | verbose
deriving DecidableEq, Repr

/- The options with a value. -/
inductive ValueOption where
  | language
  | remoteServer
  | logFile
deriving DecidableEq, Repr

/- An option of either kind. -/
inductive OptionKey where
  | flag (f : Flag)
  | value (o : ValueOption)
deriving DecidableEq, Repr

namespace OptionKey

/- The spellings of all options, in the order of the help. -/
def spellings : List (String × OptionKey) :=
  [("-h", .flag .help), ("--help", .flag .help),
    ("--stdio", .flag .stdio),
    ("--language", .value .language),
    ("--remote-server", .value .remoteServer),
    ("--log-file", .value .logFile),
    ("-v", .flag .verbose), ("--verbose", .flag .verbose)]

/- The option with a spelling. -/
def ofSpelling?
    (s : String) : Option OptionKey :=
  (spellings.find? (fun p => p.1 == s)).map (·.2)

/- The name of an option in a message: all its spellings. -/
def name
    (k : OptionKey) : String :=
  String.intercalate "/"
    ((spellings.filter (fun p => p.2 == k)).map (·.1))

end OptionKey

end ProseCheck

------------------------------------------------------------
-- Errors
------------------------------------------------------------

namespace ProseCheck

/- What may be wrong with the arguments of a program. -/
inductive ArgumentError where
  | ambiguous
      (text : String)
      (options : List String)
  | missingValue (option : OptionKey)
  | unusedValue
      (option : OptionKey)
      (value : String)
  | invalidPort (text : String)
  | unrecognized (texts : List String)
deriving DecidableEq, Repr

namespace ArgumentError

/- A text in quotes. -/
def inQuotes
    (s : String) : String :=
  (Text.ofString s).quoted.asString

/- The wording of the error. -/
def message : ArgumentError → String
  | .ambiguous text options =>
      "ambiguous option: " ++ text ++ " could match " ++
        String.intercalate ", " options
  | .missingValue option =>
      "argument " ++ option.name ++ ": expected one argument"
  | .unusedValue option value =>
      "argument " ++ option.name ++
        ": ignored explicit argument " ++ inQuotes value
  | .invalidPort text =>
      "argument port: invalid int value: " ++ inQuotes text
  | .unrecognized texts =>
      "unrecognized arguments: " ++
        String.intercalate " " texts

end ArgumentError

end ProseCheck

------------------------------------------------------------
-- Arguments
------------------------------------------------------------

namespace ProseCheck

/-
  One argument, by what it looks like: a word, the mark that
  ends the options, an option with the value behind its
  equals sign, or what looks like an option and is none.
-/
inductive Argument where
  | word (text : String)
  | separator
  | option
      (spelling : String)
      (key : OptionKey)
      (value : Option String)
  | unknown (text : String)
deriving DecidableEq, Repr

namespace Argument

/- Cut a text at its first equals sign. -/
def splitEquals
    (t : Text) : Text × Option String :=
  match t.dropWhile (· != '=') with
  | [] => (t, none)
  | _ :: value =>
      (t.takeWhile (· != '='), some (Text.asString value))

/- The options that a text with two dashes may mean. -/
def longMatches
    (t : Text) : List Argument :=
  let (name, value) := splitEquals t
  (OptionKey.spellings.filter
    (fun p => name.isPrefixOf p.1.toList)).map
    (fun p => .option p.1 p.2 value)

/-
  The options that a text with one dash may mean.  What comes
  after a spelling of one letter is taken for its value.
-/
def shortMatches
    (t : Text) : List Argument :=
  OptionKey.spellings.filterMap (fun p =>
    if p.1.toList = t.take 2 then
      some (.option p.1 p.2
        (some (Text.asString (t.drop 2))))
    else if t.isPrefixOf p.1.toList then
      some (.option p.1 p.2 none)
    else
      none)

/- The options that a text may mean, cut short or not. -/
def nearMatches
    (t : Text) : List Argument :=
  if t[1]? = some '-' then longMatches t else shortMatches t

/- Whether a text is a decimal fraction after a minus sign. -/
def isFraction
    (t : Text) : Bool :=
  let isDigit (c : Char) := (digitValue? c).isSome
  match t.dropWhile isDigit with
  | '.' :: cs => !cs.isEmpty && cs.all isDigit
  | _ => false

/-
  Whether a text is a negative number.  It may end with one
  line feed.
-/
def isNegativeNumber
    (t : Text) : Bool :=
  let t := if t.getLast? = some '\n' then t.dropLast else t
  match t with
  | '-' :: cs =>
      (!cs.isEmpty && cs.all (fun c => (digitValue? c).isSome))
        || isFraction cs
  | _ => false

/- The spelling of one option that a text means. -/
def spelling? : Argument → Option String
  | .option spelling _ _ => some spelling
  | _ => none

/- What a text means that begins with a dash. -/
def ofDashed
    (text : String) : Except ArgumentError Argument :=
  let t := Text.ofString text
  match nearMatches t with
  | [argument] => .ok argument
  | [] =>
      if isNegativeNumber t || t.contains ' ' then
        .ok (.word text)
      else
        .ok (.unknown text)
  | several =>
      .error (.ambiguous text (several.filterMap spelling?))

/-
  What a text means, unless it is the mark that ends the
  options.
-/
def ofText
    (text : String) : Except ArgumentError Argument :=
  let t := Text.ofString text
  let (name, value) := splitEquals t
  if t.head? ≠ some '-' then
    .ok (.word text)
  else
    match OptionKey.ofSpelling? text with
    | some key => .ok (.option text key none)
    | none =>
        if t.length = 1 then
          .ok (.word text)
        else
          match value,
              OptionKey.ofSpelling? name.asString with
          | some _, some key =>
              .ok (.option name.asString key value)
          | _, _ => ofDashed text

/- What several texts mean.  After the mark they are words. -/
def ofTexts : List String → Except ArgumentError (List Argument)
  | [] => .ok []
  | text :: texts =>
      if text = "--" then
        .ok (.separator :: texts.map .word)
      else do
        let argument ← ofText text
        return argument :: (← ofTexts texts)

end Argument

end ProseCheck

------------------------------------------------------------
-- Items
------------------------------------------------------------

namespace ProseCheck

/- What is to be done about one or two arguments. -/
inductive Item where
  | set
      (option : ValueOption)
      (value : String)
  | raise (flags : List Flag)
  | fail (e : ArgumentError)
  | word (text : String)
  | separator
  | unknown (text : String)
deriving DecidableEq, Repr

namespace Item

/-
  The flags that letters after a dash mean, where the letters
  follow a flag.
-/
def flagsOf
    (first : Flag) : Text → Except ArgumentError (List Flag)
  | [] => .ok [first]
  | c :: cs =>
      match OptionKey.ofSpelling? (String.ofList ['-', c]) with
      | some (.flag next) =>
          (flagsOf next cs).map (fun fs => first :: fs)
      | _ =>
          .error
            (.unusedValue (.flag first)
              (Text.asString (c :: cs)))

/- What is to be done about a flag, which has no value. -/
def ofFlag
    (spelling : String)
    (f : Flag) : Option String → Item
  | none => .raise [f]
  | some value =>
      if spelling.toList[1]? = some '-' ∨ value.isEmpty then
        .fail (.unusedValue (.flag f) value)
      else
        match flagsOf f value.toList with
        | .ok fs => .raise fs
        | .error e => .fail e

/- What is to be done about arguments, in their order. -/
def ofArguments : List Argument → List Item
  | [] => []
  | .option _ (.value o) none :: .word text :: rest =>
      .set o text :: ofArguments rest
  | .option _ (.value o) none :: rest =>
      .fail (.missingValue (.value o)) :: ofArguments rest
  | .option _ (.value o) (some value) :: rest =>
      .set o value :: ofArguments rest
  | .option spelling (.flag f) value :: rest =>
      ofFlag spelling f value :: ofArguments rest
  | .word text :: rest => .word text :: ofArguments rest
  | .separator :: rest => .separator :: ofArguments rest
  | .unknown text :: rest => .unknown text :: ofArguments rest

/- Whether an item is no option. -/
def isPlain : Item → Bool
  | .word _ => true
  | .separator => true
  | _ => false

/- Whether an item is the mark that ends the options. -/
def isSeparator : Item → Bool
  | .separator => true
  | _ => false

/- The text of an item that is no option. -/
def text : Item → String
  | .word text => text
  | _ => "--"

end Item

end ProseCheck

------------------------------------------------------------
-- Port and Host
------------------------------------------------------------

namespace ProseCheck

namespace Item

/-
  The items that belong to one argument: a word at most, with
  the marks around it.
-/
def takeGroup
    (items : List Item) : List Item × List Item :=
  let before := items.takeWhile isSeparator
  let rest := items.dropWhile isSeparator
  let one := rest.take 1
  let rest := rest.drop 1
  (before ++ one ++ rest.takeWhile isSeparator,
    rest.dropWhile isSeparator)

/-
  The word of a group.  The first mark in it does not count,
  even where a word is spelled like it.
-/
def groupWord
    (group : List Item) : Option String :=
  ((group.map text).erase "--").head?

end Item

end ProseCheck

------------------------------------------------------------
-- Reading Options
------------------------------------------------------------

namespace ProseCheck

/- The options as they are given. -/
structure RawOptions where
  port : Option Int := none
  host : Option String := none
  stdio : Bool := false
  language : Option String := none
  remoteServer : Option String := none
  logFile : Option String := none
  verbose : Bool := false
deriving DecidableEq, Repr

/- Why options are not read to the end. -/
inductive ArgumentStop where
  | help
  | invalid (e : ArgumentError)
deriving DecidableEq, Repr

namespace RawOptions

/- Take over a value. -/
def set
    (o : RawOptions)
    (option : ValueOption)
    (value : String) : RawOptions :=
  match option with
  | .language => { o with language := some value }
  | .remoteServer => { o with remoteServer := some value }
  | .logFile => { o with logFile := some (tidyPath value) }

/- Take over flags, until one of them asks for help. -/
def raise
    (o : RawOptions) :
    List Flag → Except ArgumentStop RawOptions
  | [] => .ok o
  | .help :: _ => .error .help
  | .stdio :: fs => raise { o with stdio := true } fs
  | .verbose :: fs => raise { o with verbose := true } fs

/-
  Take over items.  The second part of the result lists what
  is left over.
-/
def apply
    (o : RawOptions) :
    List Item →
    Except ArgumentStop (RawOptions × List String)
  | [] => .ok (o, [])
  | .set option value :: rest =>
      (o.set option value).apply rest
  | .raise fs :: rest => do
      (← o.raise fs).apply rest
  | .fail e :: _ => .error (.invalid e)
  | .word text :: rest => do
      let (o, left) ← o.apply rest
      return (o, text :: left)
  | .separator :: rest => do
      let (o, left) ← o.apply rest
      return (o, "--" :: left)
  | .unknown text :: rest => do
      let (o, left) ← o.apply rest
      return (o, text :: left)

/- Take over the port and the host, and list what is left. -/
def applyPlain
    (o : RawOptions)
    (items : List Item) :
    Except ArgumentStop (RawOptions × List String) :=
  let (portGroup, rest) := Item.takeGroup items
  let (hostGroup, rest) := Item.takeGroup rest
  let host := Item.groupWord hostGroup
  let left := rest.map Item.text
  match Item.groupWord portGroup with
  | none => .ok ({ o with host }, left)
  | some text =>
      match numeral? (Text.ofString text) with
      | some n => .ok ({ o with port := some n, host }, left)
      | none => .error (.invalid (.invalidPort text))

/-
  Take over all items.  The port and the host are looked for
  in the first run of items that are no options.
-/
def ofItems
    (items : List Item) :
    Except ArgumentStop (RawOptions × List String) := do
  let before := items.takeWhile (fun i => !i.isPlain)
  let rest := items.dropWhile (fun i => !i.isPlain)
  let (o, left) ← RawOptions.apply {} before
  let (o, more) ← o.applyPlain (rest.takeWhile Item.isPlain)
  let (o, last) ← o.apply (rest.dropWhile Item.isPlain)
  return (o, left ++ more ++ last)

/- The options that arguments give. -/
def ofArguments
    (texts : List String) : Except ArgumentStop RawOptions := do
  let arguments ←
    (Argument.ofTexts texts).mapError .invalid
  let (o, left) ← ofItems (Item.ofArguments arguments)
  if left.isEmpty then return o
  else throw (.invalid (.unrecognized left))

end RawOptions

end ProseCheck

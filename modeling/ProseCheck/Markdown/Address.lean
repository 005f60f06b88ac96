import ProseCheck.Markdown.Entity
import ProseCheck.Markdown.Punycode
import ProseCheck.Text.Blank
import ProseCheck.Text.CaseMap

/-
  This file decides which addresses a link may have, and how
  an address is shown that a document writes in full.

  Key definitions include:
    * `isSafeAddress`
    * `decodePercent`
    * `Address.parse`
    * `displayAddress`
-/

------------------------------------------------------------
-- Safe Addresses
------------------------------------------------------------

namespace ProseCheck

/- The schemes that are not followed. -/
def unsafeSchemes : List String :=
  ["vbscript:", "javascript:", "file:", "data:"]

/- The images that may be written into an address. -/
def safeImages : List String :=
  ["data:image/gif;", "data:image/png;",
    "data:image/jpeg;", "data:image/webp;"]

/-
  Whether a link may have an address.  It is given without
  escapes, and neither case nor blank ends matter.
-/
def isSafeAddress
    (address : Text) : Bool :=
  let address := address.strip.map Char.toLower
  let beginsWith (s : String) := s.toList.isPrefixOf address
  !unsafeSchemes.any beginsWith || safeImages.any beginsWith

end ProseCheck

------------------------------------------------------------
-- Percent Sequences
------------------------------------------------------------

namespace ProseCheck

/- The byte that a percent sequence at the start stands for. -/
def percentByte? : Text → Option Nat
  | '%' :: a :: b :: _ => do
      let a ← digitIn? true a
      let b ← digitIn? true b
      return a * 16 + b
  | _ => none

/- The characters that keep their percent sequences. -/
def keptChars : Text :=
  ";/?:@&=+$,#%".toList

/- A character below 128 that a percent sequence stands for. -/
def decodedAscii
    (n : Nat) : Text :=
  let c := Char.ofNat n
  if keptChars.contains c then
    '%' :: (Nat.toDigits 16 n).map Char.toUpper
  else
    [c]

/-
  The number of bytes that a sequence takes, by its first
  byte, and the part of that byte which counts.
-/
def leadByte?
    (n : Nat) : Option (Nat × Nat) :=
  if n / 0x20 = 6 then some (2, n % 0x20)
  else if n / 0x10 = 14 then some (3, n % 0x10)
  else if n / 0x08 = 30 then some (4, n % 0x08)
  else none

/- The bytes of the percent sequences at the start of a text. -/
def percentBytes
    (t : Text) : Nat → List Nat
  | 0 => []
  | count + 1 =>
      match percentByte? t with
      | none => []
      | some n => n :: percentBytes (t.drop 3) count

/-
  The code point that bytes after the first one complete,
  unless it is too small for that many bytes or is none.
-/
def completed?
    (lead : Nat)
    (rest : List Nat) : Option Nat :=
  let n := rest.foldl (fun n b => n * 0x40 + b % 0x40) lead
  let least :=
    match rest.length with
    | 1 => 0x80
    | 2 => 0x800
    | _ => 0x10000
  if least ≤ n ∧ n.isValidChar then some n
  else none

/-
  What the percent sequences at the start of a text stand
  for, with the number of sequences that are used up.
-/
def decodedSequence
    (t : Text)
    (n : Nat) : Text × Nat :=
  if n < 0x80 then
    (decodedAscii n, 1)
  else
    match leadByte? n with
    | none => ([replacementChar], 1)
    | some (count, lead) =>
        let rest := percentBytes (t.drop 3) (count - 1)
        if rest.length = count - 1 ∧
            rest.all (fun b => b / 0x40 == 2) = true then
          match completed? lead rest with
          | some n => ([Char.ofNat n], count)
          | none => (List.replicate count replacementChar, count)
        else
          ([replacementChar], 1)

/-
  Decode percent sequences as UTF-8.  The counter `skip` is
  the rest of a sequence that is decoded already.
-/
def decodePercentFrom
    (skip : Nat) : Text → Text
  | [] => []
  | c :: cs =>
      match skip with
      | skip + 1 => decodePercentFrom skip cs
      | 0 =>
          match percentByte? (c :: cs) with
          | none => c :: decodePercentFrom 0 cs
          | some n =>
              let (shown, count) :=
                decodedSequence (c :: cs) n
              shown ++ decodePercentFrom (3 * count - 1) cs

/- Decode percent sequences as UTF-8. -/
def decodePercent
    (t : Text) : Text :=
  decodePercentFrom 0 t

end ProseCheck

------------------------------------------------------------
-- Parts of an Address
------------------------------------------------------------

namespace ProseCheck

/-
  The parts of an address.  The rest is its path, its query
  and its fragment.
-/
structure Address where
  scheme : Text := []
  slashes : Bool := false
  user : Text := []
  host : Text := []
  port : Text := []
  rest : Text := []
deriving DecidableEq, Repr

namespace Address

/- Whether a character may stand in a scheme. -/
def isSchemeChar
    (c : Char) : Bool :=
  c.isAlphanum || c == '.' || c == '+' || c == '-'

/- The scheme with its colon, and what follows it. -/
def splitScheme
    (t : Text) : Text × Text :=
  let name := t.takeWhile isSchemeChar
  match t.dropWhile isSchemeChar with
  | ':' :: rest =>
      if name.isEmpty then ([], t) else (name ++ [':'], rest)
  | _ => ([], t)

/- The schemes after which no host is looked for. -/
def hostless : List String :=
  ["javascript:"]

/- The schemes that have a host only after two slashes. -/
def slashed : List String :=
  ["http:", "https:", "ftp:", "gopher:", "file:"]

/- The schemes whose hosts are shown decoded. -/
def decoded : List String :=
  ["http:", "https:", "mailto:"]

/- Whether a character ends the part before a host. -/
def endsAuthority
    (c : Char) : Bool :=
  c == '/' || c == '?' || c == '#'

/- Whether a character can never stand in a host. -/
def endsHost
    (c : Char) : Bool :=
  endsAuthority c || c == '%' || c == ';' || c == '\'' ||
    c == '\x7b' || c == '|' || c == '\x7d' || c == '\\' ||
    c == '^' || c.toNat == 0x60 || c == '<' || c == '>' ||
    c == '"' || c == ' ' || c == '\r' || c == '\n' ||
    c == '\t'

/- Whether a character is usual in the label of a host. -/
def isLabelChar
    (c : Char) : Bool :=
  c.isAlphanum || c == '+' || c == '_' || c == '-'

/- Cut a text behind its last character of a kind. -/
def splitAfterLast
    (p : Char → Bool)
    (t : Text) : Option (Text × Text) :=
  let tail := (t.reverse.takeWhile (fun c => !p c)).reverse
  if tail.length = t.length then none
  else some (t.take (t.length - tail.length - 1), tail)

/- The user before a host, and what follows it. -/
def splitUser
    (t : Text) : Text × Text :=
  let authority := t.takeWhile (fun c => !endsAuthority c)
  match splitAfterLast (· == '@') authority with
  | none => ([], t)
  | some (user, _) => (user, t.drop (user.length + 1))

/- The host with its port, and what follows it. -/
def splitHost
    (t : Text) : Text × Text :=
  let host := t.takeWhile (fun c => !endsHost c)
  let host :=
    if host.getLast? = some ':' then host.dropLast else host
  (host, t.drop host.length)

/- The host, and the port behind its colon. -/
def splitPort
    (t : Text) : Text × Text :=
  match splitAfterLast (fun c => !c.isDigit) t with
  | some (host, port) =>
      if t[host.length]? = some ':' then (host, port)
      else (t, [])
  | none => (t, [])

end Address

end ProseCheck

------------------------------------------------------------
-- Host Names
------------------------------------------------------------

namespace ProseCheck

namespace Address

/- The parts of a text between characters of a kind. -/
def splitAt
    (p : Char → Bool) : Text → List Text
  | [] => [[]]
  | c :: cs =>
      if p c then [] :: splitAt p cs
      else
        match splitAt p cs with
        | [] => [[c]]
        | part :: parts => (c :: part) :: parts

/- The parts of a text with points between them. -/
def joinLabels
    (labels : List Text) : Text :=
  List.intercalate ['.'] labels

/-
  Whether a label is as labels should be.  Characters beyond
  ASCII are taken for letters.
-/
def isLabel
    (label : Text) : Bool :=
  label.length ≤ 63 &&
    label.all (fun c => isLabelChar c || 127 < c.toNat)

/- The usual characters at the start of a label. -/
def labelStart
    (label : Text) : Text :=
  (label.takeWhile isLabelChar).take 63

/-
  The labels up to the first that is not as it should be,
  and what is left of that one and of those after it.
-/
def cutLabels : List Text → List Text × Option (List Text)
  | [] => ([], none)
  | label :: labels =>
      if isLabel label then
        let (kept, left) := cutLabels labels
        (label :: kept, left)
      else
        let start := labelStart label
        ([start], some (label.drop start.length :: labels))

/- Whether a host is written in square brackets. -/
def isBracketed
    (host : Text) : Bool :=
  host.head? == some '[' && host.getLast? == some ']'

/- The name of a host, and what of it is no name. -/
def cutHost
    (host : Text) : Text × Text :=
  if isBracketed host then
    (if 255 < host.length then [] else
      host.tail.dropLast, [])
  else
    let (kept, left) := cutLabels (splitAt (· == '.') host)
    let name := joinLabels kept
    (if 255 < name.length then [] else name,
      joinLabels (left.getD []))

end Address

end ProseCheck

------------------------------------------------------------
-- Reading and Writing Addresses
------------------------------------------------------------

namespace ProseCheck

namespace Address

/- Whether a host is looked for. -/
def expectsHost
    (scheme : Text)
    (slashes : Bool) : Bool :=
  let scheme := scheme.asString
  !hostless.contains scheme &&
    (slashes || (!scheme.isEmpty && !slashed.contains scheme))

/- The parts of an address. -/
def parse
    (t : Text) : Address :=
  let (scheme, rest) := splitScheme t.strip
  let slashes := ['/', '/'].isPrefixOf rest
  if !expectsHost scheme slashes then
    { scheme := scheme, rest := rest }
  else
    let rest := if slashes then rest.drop 2 else rest
    let (user, rest) := splitUser rest
    let (host, rest) := splitHost rest
    let (host, port) := splitPort host
    let (host, left) := cutHost host
    { scheme := scheme, slashes := slashes, user := user,
      host := host, port := port, rest := left ++ rest }

/- The text of an address. -/
def write
    (a : Address) : Text :=
  a.scheme ++ (if a.slashes then ['/', '/'] else []) ++
    (if a.user.isEmpty then [] else a.user ++ ['@']) ++
    (if a.host.contains ':' then '[' :: a.host ++ [']']
      else a.host) ++
    (if a.port.isEmpty then [] else ':' :: a.port) ++ a.rest

/- Whether a character stands between the labels of a host. -/
def isLabelSeparator
    (c : Char) : Bool :=
  c == '.' || c.toNat == 0x3002 || c.toNat == 0xFF0E ||
    c.toNat == 0xFF61

/- The shown form of a label. -/
def showLabel?
    (label : Text) : Option Text :=
  if "xn--".toList.isPrefixOf label then
    Punycode.decode? (Text.lower (label.drop 4))
  else
    some label

/- The shown form of a host, behind a user if it has one. -/
def showHost?
    (host : Text) : Option Text :=
  let (user, domain) :=
    match splitAt (· == '@') host with
    | user :: domain :: _ => (user ++ ['@'], domain)
    | _ => ([], host)
  (((splitAt isLabelSeparator domain).mapM showLabel?).map
    joinLabels).map (user ++ ·)

/- The address with its host in the form in which it is shown. -/
def showDecoded
    (a : Address) : Address :=
  let scheme := a.scheme.asString
  if a.host.isEmpty ∨
      ¬ (scheme.isEmpty = true ∨
        decoded.contains scheme = true) then
    a
  else
    match showHost? a.host with
    | some host => { a with host := host }
    | none => a

end Address

/- The form in which an address is shown in the text. -/
def displayAddress
    (t : Text) : Text :=
  decodePercent (Address.parse t).showDecoded.write

end ProseCheck

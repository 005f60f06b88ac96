import ProseCheck.Json.Value

/-
  This file reads JSON texts.  The recursion is bounded by
  the length of the text, as every step takes at least one
  character.

  Key definitions include:
    * `Json.readString`
    * `Json.readNumber`
    * `Json.parse?`
-/

------------------------------------------------------------
-- Strings
------------------------------------------------------------

namespace ProseCheck

namespace Json

/- The value of a hexadecimal digit. -/
def hexValue?
    (c : Char) : Option Nat :=
  if '0' ≤ c ∧ c ≤ '9' then some (c.toNat - 48)
  else if 'a' ≤ c ∧ c ≤ 'f' then some (c.toNat - 87)
  else if 'A' ≤ c ∧ c ≤ 'F' then some (c.toNat - 55)
  else none

/- The number that four hexadecimal digits stand for. -/
def hexUnit?
    (a b c d : Char) : Option Nat := do
  let a ← hexValue? a
  let b ← hexValue? b
  let c ← hexValue? c
  let d ← hexValue? d
  return ((a * 16 + b) * 16 + c) * 16 + d

/- The character that a short escape stands for. -/
def shortEscape?
    (c : Char) : Option Char :=
  match c with
  | '"' => some '"'
  | '\\' => some '\\'
  | '/' => some '/'
  | 'b' => some '\x08'
  | 'f' => some '\x0c'
  | 'n' => some '\n'
  | 'r' => some '\r'
  | 't' => some '\t'
  | _ => none

/- The character of two surrogate code units. -/
def joinUnits
    (high low : Nat) : Char :=
  Char.ofNat
    (0x10000 + (high - 0xD800) * 0x400 + (low - 0xDC00))

/-
  Read a string after its opening quote.  The characters
  read so far are in `seen`, the last one first.
-/
def readString
    (seen : List Char) :
    List Char → Option (String × List Char)
  | [] => none
  | '"' :: cs => some (String.ofList seen.reverse, cs)
  | '\\' :: 'u' :: a :: b :: c :: d :: '\\' :: 'u' ::
      e :: f :: g :: h :: cs =>
      match hexUnit? a b c d, hexUnit? e f g h with
      | some m, some n =>
          if 0xD800 ≤ m ∧ m < 0xDC00 ∧
              0xDC00 ≤ n ∧ n < 0xE000 then
            readString (joinUnits m n :: seen) cs
          else
            readString (Char.ofNat m :: seen)
              ('\\' :: 'u' :: e :: f :: g :: h :: cs)
      | some m, none =>
          readString (Char.ofNat m :: seen)
            ('\\' :: 'u' :: e :: f :: g :: h :: cs)
      | none, _ => none
  | '\\' :: 'u' :: a :: b :: c :: d :: cs =>
      match hexUnit? a b c d with
      | some m => readString (Char.ofNat m :: seen) cs
      | none => none
  | '\\' :: c :: cs =>
      match shortEscape? c with
      | some c => readString (c :: seen) cs
      | none => none
  | c :: cs =>
      if c.toNat < 0x20 ∨ c = '\\' then none
      else readString (c :: seen) cs
termination_by cs => cs.length

end Json

end ProseCheck

------------------------------------------------------------
-- Numbers
------------------------------------------------------------

namespace ProseCheck

namespace Json

/- The number that decimal digits stand for. -/
def digitsValue
    (cs : List Char) : Nat :=
  cs.foldl (fun n c => n * 10 + (c.toNat - 48)) 0

/- Read digits, at least one. -/
def readDigits
    (cs : List Char) : Option (List Char × List Char) :=
  let ds := cs.takeWhile Char.isDigit
  if ds.isEmpty then none
  else some (ds, cs.dropWhile Char.isDigit)

/- Read the digits of a fraction, if there is one. -/
def readFraction
    (cs : List Char) :
    Option (Option (List Char) × List Char) :=
  match cs with
  | '.' :: cs =>
      (readDigits cs).map (fun (ds, cs) => (some ds, cs))
  | _ => some (none, cs)

/- Read an exponent, if there is one. -/
def readExponent
    (cs : List Char) : Option (Option Int × List Char) :=
  match cs with
  | c :: cs' =>
      if c = 'e' ∨ c = 'E' then
        let (negative, cs') :=
          match cs' with
          | '-' :: rest => (true, rest)
          | '+' :: rest => (false, rest)
          | _ => (false, cs')
        (readDigits cs').map (fun (ds, rest) =>
          let n : Int := digitsValue ds
          (some (if negative then -n else n), rest))
      else
        some (none, cs)
  | [] => some (none, [])

/-
  Read a number.  It is a whole number if it has neither a
  fraction nor an exponent.
-/
def readNumber
    (cs : List Char) : Option (Json × List Char) := do
  let (negative, cs) :=
    match cs with
    | '-' :: rest => (true, rest)
    | _ => (false, cs)
  let (whole, cs) ← readDigits cs
  if whole.head? = some '0' ∧ 1 < whole.length then none
  let (fraction, cs) ← readFraction cs
  let (exponent, cs) ← readExponent cs
  match fraction, exponent with
  | none, none =>
      let n : Int := digitsValue whole
      return (.int (if negative then -n else n), cs)
  | _, _ =>
      let places := fraction.getD []
      let n := digitsValue (whole ++ places)
      let e := exponent.getD 0 - places.length
      return (.float (Binary64.ofDecimal negative n e), cs)

end Json

end ProseCheck

------------------------------------------------------------
-- Values
------------------------------------------------------------

namespace ProseCheck

namespace Json

/- The white space between the parts of a text. -/
def isSpace
    (c : Char) : Bool :=
  c == ' ' || c == '\t' || c == '\n' || c == '\r'

/- Read a word that is fixed by the format. -/
def readWord
    (word : String)
    (v : Json)
    (cs : List Char) : Option (Json × List Char) :=
  if word.toList.isPrefixOf cs then
    some (v, cs.drop word.length)
  else
    none

mutual

/- Read a value, with white space before it. -/
def readValue
    (cs : List Char) : Nat → Option (Json × List Char)
  | 0 => none
  | fuel + 1 =>
      match cs.dropWhile isSpace with
      | '"' :: cs =>
          (readString [] cs).map (fun (s, cs) => (.str s, cs))
      | '[' :: cs =>
          match cs.dropWhile isSpace with
          | ']' :: cs => some (.arr [], cs)
          | cs =>
              (readItems [] cs fuel).map
                (fun (vs, cs) => (.arr vs, cs))
      | '\x7b' :: cs =>
          match cs.dropWhile isSpace with
          | '\x7d' :: cs => some (.obj [], cs)
          | cs =>
              (readFields [] cs fuel).map
                (fun (fs, cs) => (.obj fs, cs))
      | 't' :: cs => readWord "rue" (.bool true) cs
      | 'f' :: cs => readWord "alse" (.bool false) cs
      | 'n' :: cs => readWord "ull" .null cs
      | 'N' :: cs => readWord "aN" (.float .nan) cs
      | 'I' :: cs =>
          readWord "nfinity" (.float (.infinite false)) cs
      | '-' :: 'I' :: cs =>
          readWord "nfinity" (.float (.infinite true)) cs
      | cs => readNumber cs

/- Read the items of a list up to its closing bracket. -/
def readItems
    (seen : List Json)
    (cs : List Char) :
    Nat → Option (List Json × List Char)
  | 0 => none
  | fuel + 1 => do
      let (v, cs) ← readValue cs fuel
      match cs.dropWhile isSpace with
      | ',' :: cs => readItems (v :: seen) cs fuel
      | ']' :: cs => return ((v :: seen).reverse, cs)
      | _ => none

/- Read the fields of an object up to its closing brace. -/
def readFields
    (seen : List (String × Json))
    (cs : List Char) :
    Nat → Option (List (String × Json) × List Char)
  | 0 => none
  | fuel + 1 =>
      match cs.dropWhile isSpace with
      | '"' :: cs => do
          let (name, cs) ← readString [] cs
          match cs.dropWhile isSpace with
          | ':' :: cs =>
              let (v, cs) ← readValue cs fuel
              let seen := setField name v seen
              match cs.dropWhile isSpace with
              | ',' :: cs => readFields seen cs fuel
              | '\x7d' :: cs => return (seen, cs)
              | _ => none
          | _ => none
      | _ => none

end

/- Read a text that holds one value and nothing else. -/
def parse?
    (text : String) : Option Json := do
  let cs := text.toList
  let (v, rest) ← readValue cs (2 * cs.length + 1)
  if rest.all isSpace then some v else none

end Json

end ProseCheck

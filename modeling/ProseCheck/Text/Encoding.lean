import ProseCheck.Text.Basic

/-
  This file defines the encodings in which an editor counts
  columns.  A column is a number of code units, and a
  character takes between one and four of them.

  Key definitions include:
    * `Encoding`
    * `Encoding.encode`
    * `Encoding.width`
    * `Encoding.units`
    * `Encoding.fit`
    * `Encoding.reach`
-/

------------------------------------------------------------
-- Encodings
------------------------------------------------------------

namespace ProseCheck

/- The encodings of text as a sequence of code units. -/
inductive Encoding where
  | utf8
  | utf16
  | utf32
deriving DecidableEq, Repr

namespace Encoding

/- UTF-16 is spoken where nothing else was agreed. -/
def default : Encoding :=
  .utf16

/- The encoding of a name.  An unknown name means UTF-16. -/
def ofName
    (name : String) : Encoding :=
  if name = "utf-8" then .utf8
  else if name = "utf-32" then .utf32
  else .utf16

end Encoding

end ProseCheck

------------------------------------------------------------
-- Code Units
------------------------------------------------------------

namespace ProseCheck

namespace Encoding

/- The code units of one character in UTF-8. -/
def encode8
    (n : Nat) : List Nat :=
  if n ≤ 0x7F then
    [n]
  else if n ≤ 0x7FF then
    [0xC0 + n / 0x40, 0x80 + n % 0x40]
  else if n ≤ 0xFFFF then
    [0xE0 + n / 0x1000, 0x80 + n / 0x40 % 0x40,
      0x80 + n % 0x40]
  else
    [0xF0 + n / 0x40000, 0x80 + n / 0x1000 % 0x40,
      0x80 + n / 0x40 % 0x40, 0x80 + n % 0x40]

/- The code units of one character in UTF-16. -/
def encode16
    (n : Nat) : List Nat :=
  if n ≤ 0xFFFF then
    [n]
  else
    [0xD800 + (n - 0x10000) / 0x400,
      0xDC00 + (n - 0x10000) % 0x400]

/- The code units of one character. -/
def encode
    (e : Encoding)
    (c : Char) : List Nat :=
  match e with
  | .utf8 => encode8 c.toNat
  | .utf16 => encode16 c.toNat
  | .utf32 => [c.toNat]

/- The number of code units that a text is encoded in. -/
def units
    (e : Encoding)
    (t : Text) : Nat :=
  (t.flatMap e.encode).length

/- The number of code units that one character takes. -/
def width
    (e : Encoding)
    (c : Char) : Nat :=
  match e with
  | .utf8 =>
      if c.toNat ≤ 0x7F then 1
      else if c.toNat ≤ 0x7FF then 2
      else if c.toNat ≤ 0xFFFF then 3
      else 4
  | .utf16 =>
      if c.toNat ≤ 0xFFFF then 1 else 2
  | .utf32 => 1

/- Every character takes at least one code unit. -/
theorem width_pos
    (e : Encoding)
    (c : Char) :
    0 < e.width c := by
  cases e <;> grind [width]

/- The width of a character is the length of its encoding. -/
theorem length_encode
    (e : Encoding)
    (c : Char) :
    (e.encode c).length = e.width c := by
  cases e <;> grind [encode, encode8, encode16, width]

/- A text takes the code units of all its characters. -/
theorem units_cons
    (e : Encoding)
    (c : Char)
    (t : Text) :
    e.units (c :: t) = e.width c + e.units t := by
  simp [units, length_encode]

end Encoding

end ProseCheck

------------------------------------------------------------
-- Columns
------------------------------------------------------------

namespace ProseCheck

namespace Encoding

/-
  The number of leading characters of a text that fit into
  `room` code units.  A character that fits in part only is
  not counted.
-/
def fit
    (e : Encoding)
    (room : Nat) : Text → Nat
  | [] => 0
  | c :: cs =>
      if room < e.width c then 0
      else fit e (room - e.width c) cs + 1

/-
  The number of leading characters of a text that are within
  `column` code units.  None are if the number is negative.
-/
def reach
    (e : Encoding)
    (t : Text)
    (column : Int) : Nat :=
  e.fit column.toNat t

end Encoding

end ProseCheck

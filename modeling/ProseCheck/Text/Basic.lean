/-
  This file defines the text type of the library.  A text is
  a list of code points, and an offset into it counts code
  points from its start.

  Key definitions include:
    * `Text`
    * `Text.slice`
    * `Text.find?`
    * `Text.findIn?`
-/

------------------------------------------------------------
-- Texts
------------------------------------------------------------

namespace ProseCheck

/- A text, as the list of its code points. -/
abbrev Text :=
  List Char

namespace Text

/- The code points of a string. -/
def ofString
    (s : String) : Text :=
  s.toList

/- The string with the given code points. -/
def asString
    (t : Text) : String :=
  String.ofList t

/-
  The code points from `start` up to and excluding `stop`.
  A slice that reaches past the end of the text is cut there.
-/
def slice
    (t : Text)
    (start stop : Nat) : Text :=
  (t.take stop).drop start

end Text

end ProseCheck

------------------------------------------------------------
-- Search
------------------------------------------------------------

namespace ProseCheck

namespace Text

/- The offset of the leftmost occurrence of `needle`. -/
def find?
    (needle : Text) : Text → Option Nat
  | [] =>
      if needle.isEmpty then some 0 else none
  | c :: cs =>
      if needle.isPrefixOf (c :: cs) then some 0
      else (find? needle cs).map (· + 1)

/-
  The offset of the leftmost occurrence of `needle` that lies
  between the offsets `start` and `stop`.
-/
def findIn?
    (t needle : Text)
    (start stop : Nat) : Option Nat :=
  (find? needle (t.slice start stop)).map (· + start)

/-
  The offsets of the occurrences of a needle of length
  `width`, left to right, none overlapping the one before it.
  The counter `skip` is the rest of the last occurrence.
-/
def occurrencesFrom
    (needle : Text)
    (offset skip : Nat) : Text → List Nat
  | [] => []
  | c :: cs =>
      match skip with
      | skip + 1 =>
          occurrencesFrom needle (offset + 1) skip cs
      | 0 =>
          if needle.isPrefixOf (c :: cs) then
            offset ::
              occurrencesFrom needle (offset + 1)
                (needle.length - 1) cs
          else
            occurrencesFrom needle (offset + 1) 0 cs

/- The offsets of the disjoint occurrences of `needle`. -/
def occurrences
    (needle t : Text) : List Nat :=
  occurrencesFrom needle 0 0 t

end Text

end ProseCheck

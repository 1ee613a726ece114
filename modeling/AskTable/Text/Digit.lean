/-!
# Decimal digits

Unicode holds many sets of ten decimal digits, each in rising order from its zero. A number may be
written in any of them, and its digits may come from several.

* `digit?`: the value of a decimal digit, `none` for any other character.
* `ofDigits`: the number that a list of digit values denotes.
* `digitsOf`: the text of a natural number in the digits `0` to `9`.
-/

namespace AskTable.Text

/-- The zeros of the sets of decimal digits (Unicode 14). -/
def digitZeros : List Nat := [
  0x30, 0x660, 0x6f0, 0x7c0, 0x966, 0x9e6, 0xa66, 0xae6, 0xb66, 0xbe6,
  0xc66, 0xce6, 0xd66, 0xde6, 0xe50, 0xed0, 0xf20, 0x1040, 0x1090, 0x17e0,
  0x1810, 0x1946, 0x19d0, 0x1a80, 0x1a90, 0x1b50, 0x1bb0, 0x1c40, 0x1c50, 0xa620,
  0xa8d0, 0xa900, 0xa9d0, 0xa9f0, 0xaa50, 0xabf0, 0xff10, 0x104a0, 0x10d30, 0x11066,
  0x110f0, 0x11136, 0x111d0, 0x112f0, 0x11450, 0x114d0, 0x11650, 0x116c0, 0x11730, 0x118e0,
  0x11950, 0x11c50, 0x11d50, 0x11da0, 0x16a60, 0x16ac0, 0x16b50, 0x1d7ce, 0x1d7d8, 0x1d7e2,
  0x1d7ec, 0x1d7f6, 0x1e140, 0x1e2f0, 0x1e950, 0x1fbf0]

/-- The value of a decimal digit. -/
def digit? (c : Char) : Option Nat :=
  digitZeros.findSome? fun z =>
    if z ≤ c.toNat && c.toNat < z + 10 then some (c.toNat - z) else none

def isDigit (c : Char) : Bool := (digit? c).isSome

/-- The number whose decimal digits, the highest first, have these values. -/
def ofDigits (values : List Nat) : Nat := values.foldl (fun n d => 10 * n + d) 0

/-- The number that the digits of a text denote; other characters do not count. -/
def natOf (s : List Char) : Nat := ofDigits (s.filterMap digit?)

/-- The longest run of digits in front of a text, and what follows it. -/
def spanDigits (s : List Char) : List Char × List Char := (s.takeWhile isDigit, s.dropWhile isDigit)

/-- The digits `0` to `9` of a natural number, the highest first. -/
def digitsOf (n : Nat) : List Char := Nat.toDigits 10 n

/-- A natural number as text. -/
def natText (n : Nat) : String := String.ofList (digitsOf n)

/-- An integer as text: a minus sign before a negative one. -/
def intText (n : Int) : String :=
  match n with
  | .ofNat m => String.ofList (digitsOf m)
  | .negSucc m => String.ofList ('-' :: digitsOf (m + 1))

end AskTable.Text

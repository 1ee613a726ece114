import AskTable.Text.Blank
import AskTable.Text.Hex
import AskTable.Text.HiddenTable

/-!
# Quoted text

A text shown as a literal: in single quotes, or in double ones when it holds single quotes and no
double ones. Inside, the quote and the backslash are escaped, line breaks and tabs have short
escapes, and a character without a visible form is shown by its code point.

* `quoted`: a text as a literal.
* `quotedBytes`: bytes as a literal, marked by a leading `b`.
-/

namespace AskTable.Text

/-- Double quotes surround a text that holds single quotes and no double ones. -/
def quoteFor (s : List Char) : Char := if s.contains '\'' && !s.contains '"' then '"' else '\''

/-- The short escapes, and the escape of the surrounding quote. -/
def shortEscape? (quote c : Char) : Option (List Char) :=
  if c == quote || c == '\\' then some ['\\', c]
  else match c with
    | '\n' => some ['\\', 'n']
    | '\r' => some ['\\', 'r']
    | '\t' => some ['\\', 't']
    | _ => none

/-- A code point by its number: two, four or eight hexadecimal digits, as few as will do. -/
def numberedEscape (n : Nat) : List Char :=
  if n < 0x100 then '\\' :: 'x' :: hexWidth 2 n
  else if n < 0x10000 then '\\' :: 'u' :: hexWidth 4 n
  else '\\' :: 'U' :: hexWidth 8 n

def quotedChar (quote c : Char) : List Char :=
  (shortEscape? quote c).getD (if inRanges hiddenRanges c then numberedEscape c.toNat else [c])

/-- A text as a literal. -/
def quoted (s : String) : String :=
  let cs := s.toList
  let quote := quoteFor cs
  String.ofList (quote :: cs.flatMap (quotedChar quote) ++ [quote])

/-- Bytes as a literal: what is not visible ASCII is shown by its number. -/
def quotedBytes (bytes : List UInt8) : String :=
  let cs := bytes.map fun b => Char.ofNat b.toNat
  let quote := quoteFor cs
  let shown (c : Char) : List Char := (shortEscape? quote c).getD
    (if 0x20 ≤ c.toNat && c.toNat < 0x7F then [c] else numberedEscape c.toNat)
  String.ofList ('b' :: quote :: cs.flatMap shown ++ [quote])

end AskTable.Text

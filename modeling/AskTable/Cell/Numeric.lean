import AskTable.Cell.Text
import AskTable.Fault

/-!
# Numbers in cells

A cell is numeric when it is a number, or when its text starts like one: `12 kg` reads as 12.

* `Cell.isNumber`: is the value a number? Truth values are none.
* `Cell.number?`: the binary number that a cell reads as; it is never a number that is none.
* `Cell.looksNumeric`: the class by which columns are told numeric.
-/

namespace AskTable

open AskTable.Number AskTable.Text

/-- The number at the front of a text, after blanks; what follows it does not matter
(`_FLOAT_PREFIX_RE`). -/
def leadingNumber? (s : String) : Option Binary64 :=
  (Numeral.read? (trimStart s.toList)).map fun (numeral, _) => numeral.value

namespace Cell

/-- Is the value a number (`is_number`)? -/
def isNumber : Cell → Bool
  | .int _ | .float _ | .decimal _ | .complex .. | .wordInt _ | .wordFloat _ => true
  | _ => false

/-- A number that is not one does not count. -/
def proper (x : Binary64) : Option Binary64 := if x.isNaN then none else some x

/-- The number that the text of a cell starts with; a missing cell and a truth value have none. -/
def leading? : Cell → Option Binary64
  | .null | .bool _ => none
  | c => leadingNumber? c.plainText

/-- The binary number that a cell reads as (`parse_float`). Only an integer beyond all of them is a
fault. -/
def number? : Cell → Except Fault (Option Binary64)
  | .int n | .wordInt n =>
    match Binary64.ofInt? n with
    | some x => .ok (some x)
    | none => .error .tooLarge
  | .float x | .wordFloat x => .ok (proper x)
  | .decimal d => .ok (d.toBinary64?.bind proper)
  | .complex .. => .ok none
  | c => .ok (leading? c)

/-- Is the cell a number, or does its text start like one (`looks_numeric`)? -/
def looksNumeric (c : Cell) : Bool := c.isNumber || (leading? c).isSome

end Cell

end AskTable

import AskTable.Number.Numeral
import AskTable.Text.Keyword

/-!
# The limit of a statement

The first `LIMIT` that blanks and digits follow bounds the number of rows.

* `limitDigits?`: those digits.
* `limitCount`: the number they denote; too long a number is a fault.
-/

namespace AskTable.Statement

open AskTable.Text AskTable.Number

def limitWord : List Char := "limit".toList

/-- The digits after the `LIMIT` at the front of a text. -/
def limitHere? (s : List Char) : Option (List Char) :=
  match (dropKeyword? limitWord s).bind dropBlanks? with
  | none => none
  | some rest =>
    match spanDigits rest with
    | ([], _) => none
    | (digits, _) => some digits

/-- The digits of the first limit in a text (`_LIMIT_RE`). -/
def limitDigits? : List Char → Option (List Char)
  | [] => none
  | c :: s => limitHere? (c :: s) <|> limitDigits? s

/-- The number that digits denote, unless there are too many. -/
def countOf (digits : List Char) : Except WholeFault Nat :=
  if maxDigits < digits.length then .error (.tooLong digits.length) else .ok (natOf digits)

/-- The bound on the number of rows, if the text has one (`limit_count`). -/
def limitCount (s : List Char) : Except WholeFault (Option Nat) :=
  match limitDigits? s with
  | none => .ok none
  | some digits => (countOf digits).map some

end AskTable.Statement

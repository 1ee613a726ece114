import AskTable.Statement.Limit
import AskTable.Statement.Projection
import AskTable.Statement.SelectList
import AskTable.Text.Case

/-!
# What a statement asks of a table

A statement is not parsed. It has one of three shapes, told by a few words in it, and whatever else
it holds is ignored.

* `Shape`: every row, every row cut down to some columns, or the first rows.
* `Shape.read`: the shape of a statement; a value that is no statement asks for every row.
* `Shape.apply`, `execute`: the rows of the answer.
-/

namespace AskTable.Statement

open AskTable.Text

inductive Shape where
  | everything
  | columns (tokens : List Token)
  | first (count : Nat)

/-- Does the text hold a piece, given as characters? -/
def mentions (piece : String) (s : List Char) : Bool := occurs piece.toList s

/-- The columns that a text selects; its upper-case form has to hold both words. -/
def columnsAsked? (s : List Char) : Option (List Token) :=
  if mentions "SELECT" (upper s) && mentions "FROM" (upper s) then
    (selectList? s).map fun list => list.map Token.ofText
  else none

/-- The rows that a text limits its answer to; its upper-case form has to hold the word. -/
def countAsked? (s : List Char) : Option Nat :=
  if mentions "LIMIT" (upper s) then
    match limitCount s with
    | .ok count => count
    | .error _ => none
  else none

/-- The shape of a text: the first of the three that it has. -/
def Shape.ofText (s : List Char) : Shape :=
  if mentions "SELECT *" (upper s) then .everything
  else match columnsAsked? s with
    | some tokens => .columns tokens
    | none =>
      match countAsked? s with
      | some count => .first count
      | none => .everything

/-- The shape of any value. Only a text can ask for less than every row. -/
def Shape.read : Cell → Shape
  | .text s => .ofText s.toList
  | _ => .everything

def Shape.apply : Shape → List Row → List Row
  | .everything, rows => rows
  | .columns tokens, rows => project tokens rows
  | .first count, rows => rows.take count

/-- The rows that answer a statement (`execute`). -/
def execute (statement : Cell) (table : Table) : List Row := (Shape.read statement).apply table.rows

end AskTable.Statement

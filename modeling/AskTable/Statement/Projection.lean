import AskTable.Table.Basic

/-!
# Projection

* `Token`: a column, or a star for all columns of a row.
* `expand`: the labels that tokens name in a row.
* `project`: every row cut down to those labels.
-/

namespace AskTable.Statement

/-- One entry of a select list. -/
inductive Token where
  | star
  | column (label : Label)

/-- A star stands for all columns; every other text names one. -/
def Token.ofText (s : String) : Token := if s == "*" then .star else .column (.ofText s)

/-- The token of any cell that has a key. -/
def Token.ofCell (c : Cell) : Except Fault Token :=
  match c with
  | .text s => .ok (.ofText s)
  | c => (Label.ofCell c).map .column

/-- The labels that a token names in a row. -/
def Token.labels (row : Row) : Token → List Label
  | .star => row.labels
  | .column label => [label]

/-- The labels that tokens name in a row, stars replaced by all labels of the row. -/
def expand (tokens : List Token) (row : Row) : List Label := tokens.flatMap (Token.labels row)

/-- Every row with the labels that the tokens name in it (`project`). -/
def project (tokens : List Token) (rows : List Row) : List Row :=
  rows.map fun row => row.select (expand tokens row)

/-- Projects on any cells; without rows none of them is looked at. -/
def projectCells (columns : List Cell) (rows : List Row) : Except Fault (List Row) :=
  if rows.isEmpty then .ok [] else return project (← columns.mapM Token.ofCell) rows

end AskTable.Statement

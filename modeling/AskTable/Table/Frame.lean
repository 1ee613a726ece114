import AskTable.Table.Basic

/-!
# Frames

A frame holds a table by columns, each of one kind: a column of numbers with a gap or a fraction is
one of binary numbers, a column of moments is one of stamps, and any other keeps its cells.

* `frameColumn`: the cells of a column as a frame holds them.
* `frameOf`: the frame of some rows, whose columns are all labels that any row has.
-/

namespace AskTable

open AskTable.Number

/-- A gap in a column: no cell, or a missing one. -/
def isGap : Option Cell → Bool
  | none | some .null => true
  | some (.float x) | some (.wordFloat x) => x.isNaN
  | _ => false

def isBinaryCell : Option Cell → Bool
  | some (.int _) | some (.float _) | some (.wordInt _) | some (.wordFloat _) => true
  | _ => false

def isIntegerCell : Option Cell → Bool
  | some (.int _) | some (.wordInt _) => true
  | _ => false

def isMomentCell : Option Cell → Bool
  | some (.moment _) | some (.stamp _) => true
  | _ => false

/-- A number or gap as a binary number. -/
def toBinary : Option Cell → Cell
  | some (.int n) | some (.wordInt n) => .float ((Binary64.ofInt? n).getD .nan)
  | some (.float x) | some (.wordFloat x) => .float x
  | _ => .float .nan

/-- A moment or gap as a stamp. -/
def toStamp : Option Cell → Cell
  | some (.moment m) => .stamp (some m)
  | some (.stamp m) => .stamp m
  | _ => .stamp none

/-- The cells of a column as a frame holds them. -/
def frameColumn (cells : List (Option Cell)) : List Cell :=
  if cells.all isIntegerCell then cells.map fun c => c.getD .null
  else if cells.any isBinaryCell && cells.all fun c => isBinaryCell c || isGap c then
    cells.map toBinary
  else if cells.any isMomentCell && cells.all fun c => isMomentCell c || isGap c then
    cells.map toStamp
  else cells.map fun c => c.getD (.float .nan)

/-- The labels of all rows, in the order in which they first come. -/
def allLabels (rows : List Row) : List Label :=
  (Row.ofList (rows.flatMap fun r => r.entries)).labels

/-- Puts columns of equal height side by side. -/
def sideBySide (height : Nat) (columns : List (Cell × List Cell)) : List (List (Cell × Cell)) :=
  (List.range height).map fun i => columns.map fun c => (c.1, c.2[i]?.getD .null)

/-- The frame of some rows, and the text that is written for it. -/
def frameOf (rows : List Row) (text : String := "") : Cell :=
  let columns := (allLabels rows).map fun l => (l.cell, frameColumn (rows.map fun r => r.get? l))
  .frame ⟨sideBySide rows.length columns, text⟩

end AskTable

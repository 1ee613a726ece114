import AskTable.File.Header
import AskTable.File.SheetColumn
import AskTable.File.StoredCell

/-!
# Tables from workbooks

The first row of a sheet names the columns. The names take one kind too, when they are all numbers or
all moments. As for the kinds of columns, the rules are those of the package that `read_rows` leaves
the workbook to.

* `grid`: the rows of a sheet, all of one length.
* `alike`: names in one kind.
* `workbookRows`: the rows of the first sheet.
-/

namespace AskTable.File

open AskTable.Number

/-! ## The grid -/

/-- Is it an empty text? -/
def isEmptyText : Cell → Bool
  | .text s => s.isEmpty
  | _ => false

/-- The rows of a sheet without empty ends, filled up to one length. -/
def grid (sheet : List (List Cell)) : List (List Cell) :=
  let rows := dropEnd List.isEmpty (sheet.map fun r => dropEnd isEmptyText (r.map storedCell))
  let width := (rows.map List.length).foldl max 0
  rows.map fun r => r ++ List.replicate (width - r.length) (.text "")

/-! ## Rows -/

/-- The column at a place. -/
def columnAt (rows : List (List Cell)) (place : Nat) : List Cell :=
  rows.map fun r => r[place]?.getD .null

/-- A column name as the header gives it. -/
def sheetName (c : Cell) : Option Label := if isEmptyText c then none else (Label.ofCell c).toOption

def isBinaryName : Cell → Bool
  | .float _ => true
  | _ => false

def isNumberName : Cell → Bool
  | .int _ | .float _ => true
  | _ => false

/-- A number as a binary one. -/
def asBinary : Cell → Cell
  | .int n => .float ((Binary64.ofInt? n).getD .nan)
  | c => c

/-- The names of columns in one kind: numbers alone are all integers or all binary, and moments
alone are stamps. -/
def alike (names : List Cell) : List Cell :=
  if names.all isNumberName && names.any isBinaryName then names.map asBinary
  else if names.all fun c => (stampable? c).isSome then names.map fun c => .stamp (stampable? c)
  else names

/-- Labels in one kind. -/
def alikeLabels (names : List Label) : List Label :=
  (names.zip (alike (names.map (·.cell)))).map fun p => (Label.ofCell p.2).toOption.getD p.1

/-- The rows of a sheet. -/
def sheetRows (sheet : List (List Cell)) : List Row :=
  match grid sheet with
  | [] => []
  | header :: rows =>
    let names := alikeLabels (distinctNames (header.map sheetName))
    let columns := (List.range names.length).map fun place => columnCells (columnAt rows place)
    (List.range rows.length).map fun i =>
      .ofList (names.zip (columns.map fun cells => cells[i]?.getD .null))

/-- The rows of the first sheet (`read_rows`). -/
def workbookRows (sheets : List (List (List Cell))) : List Row := sheetRows (sheets.head?.getD [])

end AskTable.File

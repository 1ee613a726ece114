import AskTable.Number.Mean
import AskTable.Report.Quality
import AskTable.Report.Summary

/-!
# Charts

* `chooseCategory`: which kind of chart suits a result.
* `figures?`: the least, greatest and mean number of a column, and how many there are.
* `Chart`, `recommend`: the chart for a result, with the figures of its numeric columns.
-/

namespace AskTable.Report

open AskTable.Number

/-- Figures by name, in order. -/
abbrev Figures := List (String × Cell)

/-- The figure of a name. -/
def Figures.find? (f : Figures) (name : String) : Option Cell := Entries.find? id name f

/-- What a chart shows: a sentence, or figures of numeric columns. -/
inductive ChartKind where
  | summary
  | aggregated
  | named (name : String)
  deriving DecidableEq, Repr

def ChartKind.ofName : String → ChartKind
  | "summary" => .summary
  | "aggregated" => .aggregated
  | name => .named name

def ChartKind.name : ChartKind → String
  | .summary => "summary"
  | .aggregated => "aggregated"
  | .named name => name

/-- A chart (`ChartRecommendation`). -/
structure Chart where
  category : String
  kind : ChartKind
  message : Option String
  statistics : List (Label × Figures)

/-- Up to this many rows make a pie. -/
def pieRows : Nat := 10

/-- A line for numbers over dates, bars for two numeric columns or more, a pie for few rows, and a
table for everything else (`choose_category`). -/
def chooseCategory (rows : List Row) (columns : List Label) : String :=
  let numbers := numericColumns rows columns
  if rows.isEmpty then "table"
  else if !(dateColumns columns).isEmpty && !numbers.isEmpty then "line"
  else if 1 < numbers.length then "bar"
  else if rows.length ≤ pieRows then "pie"
  else "table"

/-- The numbers that the cells of a column read as, in row order. -/
def columnNumbers (rows : List Row) (label : Label) : Except Fault (List Binary64) :=
  return (← (column rows label).mapM Cell.number?).filterMap id

/-- The figures of some numbers; without numbers there are none. -/
def figuresOf : List Binary64 → Option Figures
  | [] => none
  | x :: xs => some [("min", .float (least x xs)), ("max", .float (greatest x xs)),
      ("avg", .float (mean (x :: xs))), ("count", .int (xs.length + 1))]

/-- The figures of a column, if any of its cells reads as a number. -/
def figures? (rows : List Row) (label : Label) : Except Fault (Option Figures) :=
  return figuresOf (← columnNumbers rows label)

/-- The entries that have a value. -/
def given (entries : List (α × Option β)) : List (α × β) :=
  entries.filterMap fun e => e.2.map fun b => (e.1, b)

/-- The figures of columns; a column without numbers is left out (`aggregate_statistics`). -/
def aggregate (rows : List Row) (columns : List Label) : Except Fault (List (Label × Figures)) :=
  return given (← measured (figures? rows) columns)

/-- The figures of columns named by any cells; without rows none of them is looked at. -/
def aggregateCells (rows : List Row) (columns : List Cell) :
    Except Fault (List (Label × Figures)) :=
  if rows.isEmpty then .ok [] else return given (← measuredCells (figures? rows) columns)

/-- The chart for a result, of which `columns` are looked at (`recommend`). -/
def recommend (rows : List Row) (columns : List Label) : Except Fault Chart :=
  let category := chooseCategory rows columns
  let numbers := numericColumns rows columns
  if numbers.isEmpty then
    .ok ⟨category, .summary, some s!"Found {rows.length} records with {columns.length} columns", []⟩
  else return ⟨category, .aggregated, none, ← aggregate rows numbers⟩

/-- The chart for a result with columns named by any cells. Without rows there is only the number of
columns to tell. -/
def recommendCells (rows : List Row) (columns : List Cell) : Except Fault Chart :=
  if rows.isEmpty then
    .ok ⟨"table", .summary, some s!"Found 0 records with {columns.length} columns", []⟩
  else do recommend rows (← columns.mapM Label.ofCell)

end AskTable.Report

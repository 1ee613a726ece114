import AskTable.Table.Basic

/-!
# Data quality

Three figures for each column of a sample: how many cells are filled, how many differ among those
present, and how many differ among all.

* `completeness`: the percentage of cells that are neither missing nor blank.
* `consistency`: how many cells are present and how many of them differ.
* `uniqueness`: the percentage of cells that differ, where missing cells count as one more.
* `Quality.assess`: all three for the first 100 rows.
-/

namespace AskTable.Report

open AskTable.Number

/-- How many rows a sample takes (`SAMPLE_ROWS`). -/
def sampleRows : Nat := 100

/-- The cells of a column. -/
def column (rows : List Row) (label : Label) : List Cell := rows.map fun r => r.get label

/-- The cells of a column that are not missing. -/
def presentCells (rows : List Row) (label : Label) : List Cell :=
  (column rows label).filter fun c => !c.isNull

/-- A cell is filled when it is there and its text is not blank. -/
def isFilled (c : Cell) : Bool := !c.isNull && !Text.allBlank c.plainText

def percent (part whole : Nat) : Binary64 := .ofRatio false (100 * part) whole

/-- The percentage of filled cells (`completeness`). -/
def completeness (sample : List Row) (label : Label) : Binary64 :=
  percent ((column sample label).countP isFilled) sample.length

/-- How many cells are present, and how many of them differ. -/
structure Variety where
  distinct : Nat
  total : Nat
  deriving DecidableEq, Repr

/-- The share of cells that differ; without cells there is none. -/
def Variety.score (v : Variety) : Option Binary64 :=
  if v.total == 0 then none else some (.ofRatio false v.distinct v.total)

/-- How the present cells of a column vary (`consistency`). -/
def consistency (sample : List Row) (label : Label) : Except Fault Variety :=
  let cells := presentCells sample label
  return ⟨← distinctCount cells, cells.length⟩

/-- The percentage of cells that differ (`uniqueness`). -/
def uniqueness (sample : List Row) (label : Label) : Except Fault Binary64 :=
  return percent (← distinctCount (column sample label)) sample.length

/-- One figure for each column; a repeated column counts once. -/
def measured (f : Label → Except Fault α) (columns : List Label) :
    Except Fault (List (Label × α)) :=
  return Entries.putAll Label.key (← columns.mapM fun l => return (l, ← f l)) []

/-- One figure for each of any cells that name columns. -/
def measuredCells (f : Label → Except Fault α) (columns : List Cell) :
    Except Fault (List (Label × α)) :=
  return Entries.putAll Label.key
    (← columns.mapM fun c => do let l ← Label.ofCell c; return (l, ← f l)) []

/-- A percentage for each of any cells that name columns; of no rows there is none. -/
def percentCells (sample : List Row) (f : Label → Except Fault α) (columns : List Cell) :
    Except Fault (List (Label × α)) :=
  if sample.isEmpty && !columns.isEmpty then .error .noDivision else measuredCells f columns

/-- The quality of a sample. -/
structure Quality where
  completeness : List (Label × Binary64)
  consistency : List (Label × Variety)
  uniqueness : List (Label × Binary64)
  sampleSize : Nat
  columnCount : Nat

/-- The quality of the first rows; of no rows there is none (`assess_data_quality`). -/
def Quality.assess (rows : List Row) : Except Fault (Option Quality) :=
  if rows.isEmpty then .ok none
  else do
    let sample := rows.take sampleRows
    let columns := firstColumns rows
    let filled ← measured (fun l => .ok (Report.completeness sample l)) columns
    let varied ← measured (Report.consistency sample) columns
    let unique ← measured (Report.uniqueness sample) columns
    return some ⟨filled, varied, unique, sample.length, columns.length⟩

end AskTable.Report

import AskTable.Cell.Numeric
import AskTable.Table.Naming

/-!
# Summaries

* `numericColumns`, `dateColumns`: the columns that hold numbers, by the first row alone, and those
  whose name speaks of dates.
* `Summary`, `summarize`: the size of a result and what its columns are.
-/

namespace AskTable.Report

/-- The columns whose cell in the first row looks numeric (`numeric_columns`). -/
def numericColumns (rows : List Row) (columns : List Label) : List Label :=
  match rows with
  | [] => []
  | first :: _ => columns.filter fun c => (first.get c).looksNumeric

/-- The columns whose name speaks of dates or times (`date_columns`). -/
def dateColumns (columns : List Label) : List Label := columns.filter fun c => isDateLike c.text

/-- The size of a result, its columns and their kinds (`Summary`). -/
structure Summary where
  rowCount : Nat
  columnCount : Nat
  columnNames : List String
  hasNumbers : Bool
  hasDates : Bool
  deriving DecidableEq, Repr

/-- The summary of a result (`summarize`). -/
def summarize (rows : List Row) : Summary :=
  let columns := firstColumns rows
  { rowCount := rows.length
    columnCount := columns.length
    columnNames := columns.map fun c => sanitized c.text
    hasNumbers := !(numericColumns rows columns).isEmpty
    hasDates := !(dateColumns columns).isEmpty }

end AskTable.Report

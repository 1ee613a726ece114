import AskTable.Table.Row

/-!
# Tables

A table is a list of rows. Its columns are those of its first row; later rows may have others.

* `Table`: the rows; `Table.columns`, `Table.describe`: the columns and their descriptors.
* `Descriptor`: what is known of one column.
* `upTo`: the front of a list, counted from its end by a negative bound.
-/

namespace AskTable

/-- A list of rows, whose columns are those of the first one (`Table`). -/
structure Table where
  rows : List Row

/-- One column of a table, as a translator sees it (`ColumnDescriptor`). -/
structure Descriptor where
  table : Cell
  column : Cell
  dataType : Cell
  nullable : Bool

/-- The name under which uploaded data is queried (`LOCAL_TABLE_NAME`). -/
def localTable : String := "UPLOADED_DATA"

/-- The columns of the first row (`first_row_columns`). -/
def firstColumns (rows : List Row) : List Label := (rows.head?.map Row.labels).getD []

namespace Table

def columns (t : Table) : List Label := firstColumns t.rows

/-- Every column is described as text that may be missing; the cells are not looked at
(`Table.describe_schema`). -/
def describe (t : Table) : List Descriptor :=
  t.columns.map fun l => ⟨.text localTable, l.cell, .text "VARCHAR", true⟩

/-- The row at an index; a negative one counts from the end. -/
def row? (t : Table) (index : Int) : Option Row :=
  let place := if index < 0 then index + t.rows.length else index
  if place < 0 then none else t.rows[place.toNat]?

end Table

/-- The front of a list up to a bound; a negative bound leaves off that many at the end. -/
def upTo (bound : Int) (xs : List α) : List α :=
  if bound < 0 then xs.take (xs.length - bound.natAbs) else xs.take bound.toNat

/-- How many rows an answer shows (`PREVIEW_ROWS`). -/
def previewRows : Nat := 10

/-- How many descriptors a translator is shown (`MAX_SCHEMA_ENTRIES`). -/
def maxDescriptors : Nat := 50

end AskTable

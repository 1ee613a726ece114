import AskTable.Fault
import AskTable.File.Header
import AskTable.File.Record
import AskTable.Text.Blank

/-!
# Tables from comma-separated text

The first record names the columns, and every later one is a row. A cell is the field without the
blanks around it.

* `recordWidth`: the number of fields that every row has.
* `widened`: the fields of all rows; a third or later record may not be longer than that.
* `delimitedRows`: the rows of a text. When a first row is longer than the header, the fields in
  front are left out.
-/

namespace AskTable.File

open AskTable.Text

/-- The text of a field without the blanks around it. -/
def fieldText (field : List Char) : String := String.ofList (trim field)

/-- The number of fields in every row: that of the header or of the first row. -/
def recordWidth (header : Record) (rows : List Record) : Nat :=
  max header.fields.length ((rows.head?.map fun r => r.fields.length).getD 0)

/-- The fields of a row, with empty ones added up to the width. -/
def padTo (width : Nat) (fields : List (List Char)) : List (List Char) :=
  fields ++ List.replicate (width - fields.length) []

/-- The fields of all rows, or the first row that is too long. -/
def widened (width : Nat) : List Record → Except Fault (List (List (List Char)))
  | [] => .ok []
  | r :: rows =>
    if width < r.fields.length then .error (.fieldCount width (r.before + 1) r.fields.length)
    else return padTo width r.fields :: (← widened width rows)

/-- The fields of all rows of a text. Quotes that are left open are a fault, unless a row before
them is one. -/
def rowFields (header : Record) (rs : Records) : Except Fault (List (List (List Char))) := do
  let fields ← widened (recordWidth header rs.records) rs.records
  match rs.openQuote with
  | some row => .error (.openQuote row)
  | none => .ok fields

/-- A column name as the header gives it. -/
def headerName (field : List Char) : Option Label :=
  if field.isEmpty then none else some (.ofText (String.ofList field))

/-- The names of the columns, without blanks around them; two names may become one. -/
def columnNames (header : Record) : List Label :=
  (distinctNames (header.fields.map headerName)).map fun name => .ofText (trimmed name.text)

/-- A row: the last fields under the names of the columns. -/
def rowOf (names : List Label) (fields : List (List Char)) : Row :=
  .ofList (names.zip ((fields.drop (fields.length - names.length)).map fun f => .text (fieldText f)))

/-- The rows of a text (`read_rows`). -/
def delimitedRows (text : List Char) : Except Fault (List Row) :=
  match records text with
  | ⟨[], none⟩ => .ok []
  | ⟨[], some row⟩ => .error (.openQuote row)
  | ⟨header :: rows, openQuote⟩ =>
    return (← rowFields header ⟨rows, openQuote⟩).map (rowOf (columnNames header))

end AskTable.File

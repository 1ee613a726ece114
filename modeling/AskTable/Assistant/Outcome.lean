import AskTable.Assistant.Session
import AskTable.Report.Envelope

/-!
# Outcomes

* `Origin`: where the rows of an answer come from.
* `QueryOutcome`: an answer, or the advice to provide a data file.
* `ConnectOutcome`: whether the warehouse was reached.
* `Catalog`: the columns of the warehouse's schema.
* Each has a `document`; `leaf` stands for the document of a cell.
-/

namespace AskTable

open AskTable.File AskTable.Report

inductive Origin where
  /-- The table of the data file at a path. -/
  | file (path : String) (table : Table)
  | warehouse

def Origin.mode : Origin → Mode
  | .file .. => .file
  | .warehouse => .remote

/-- How the origin is called in an envelope. -/
def Origin.source : Origin → String
  | .file .. => localSource
  | .warehouse => remoteSource

def Origin.message : Origin → String
  | .file path _ => "Using data file: " ++ baseName path
  | .warehouse => "Using Snowflake warehouse"

/-- Why there is no data file. -/
def noDataFile : String := "No Excel or CSV file found in uploads folder"

/-- What came of a question (`QueryOutcome`). -/
inductive QueryOutcome where
  /-- There is no data and no connection; a file should be provided. -/
  | advice
  | answered (origin : Origin) (envelope : Envelope)

namespace QueryOutcome

def success : QueryOutcome → Bool
  | .advice => false
  | .answered .. => true

def mode : QueryOutcome → Mode
  | .advice => .idle
  | .answered origin _ => origin.mode

def message : QueryOutcome → String
  | .advice => noDataFile ++ ". Please place a data file in the uploads/ folder."
  | .answered origin _ => origin.message

def action? : QueryOutcome → Option String
  | .advice => some "upload_data"
  | .answered .. => none

def envelope? : QueryOutcome → Option Envelope
  | .advice => none
  | .answered _ envelope => some envelope

/-- The members that every outcome has. -/
def head (success : Bool) (mode : Mode) (message : String) : List (String × Json) :=
  [("success", .bool success), ("mode", .text mode.name), ("message", .text message)]

/-- The outcome as a document (`QueryOutcome.to_dict`). -/
def document (o : QueryOutcome) : Except Fault Json := do
  let structured ← o.envelope?.mapM fun e => return ("structured_output", ← e.document)
  return .fields (head o.success o.mode o.message ++
    (o.action?.map fun a => ("action", Json.text a)).toList ++ structured.toList)

end QueryOutcome

/-- What came of connecting (`ConnectOutcome`). -/
inductive ConnectOutcome where
  /-- The warehouse was reached; this one is active on the connection, or null. -/
  | connected (warehouse : Cell)
  /-- The login failed; the session stays in its mode. -/
  | refused (mode : Mode) (details : String)

namespace ConnectOutcome

def success : ConnectOutcome → Bool
  | .connected _ => true
  | .refused .. => false

def mode : ConnectOutcome → Mode
  | .connected _ => .remote
  | .refused mode _ => mode

def message : ConnectOutcome → String
  | .connected _ => "Connected to Snowflake successfully"
  | .refused .. => "Failed to connect to Snowflake"

/-- The details, unless there are none. -/
def details? : ConnectOutcome → Option String
  | .connected _ => none
  | .refused _ details => if details.isEmpty then none else some details

/-- The active warehouse, if its name counts as given. -/
def warehouse? : ConnectOutcome → Option Cell
  | .connected warehouse => if warehouse.truthy then some warehouse else none
  | .refused .. => none

/-- The outcome as a document (`ConnectOutcome.to_dict`). -/
def document (leaf : Cell → Except Fault Json) (o : ConnectOutcome) : Except Fault Json := do
  let warehouse ← o.warehouse?.mapM fun w => return ("warehouse", ← leaf w)
  return .fields (QueryOutcome.head o.success o.mode o.message ++
    (o.details?.map fun d => ("details", Json.text d)).toList ++ warehouse.toList)

end ConnectOutcome

/-- The columns of the warehouse's schema. -/
structure Catalog where
  columns : List Descriptor

namespace Catalog

/-- How many tables the columns belong to. -/
def tableCount (c : Catalog) : Nat := (c.columns.map fun d => d.table.plainText).eraseDups.length

/-- A column as a document (`ColumnDescriptor.to_dict`). -/
def columnDocument (d : Descriptor) : Json :=
  .fields [("table_name", .text d.table.plainText), ("column_name", .text d.column.plainText),
    ("data_type", .text d.dataType.plainText), ("nullable", .bool d.nullable)]

def document (c : Catalog) : Json :=
  .fields [("schema", .list (c.columns.map columnDocument)), ("table_count", .int c.tableCount),
    ("column_count", .int c.columns.length)]

end Catalog

/-- What is said of an assistant that runs (`Assistant.health`). -/
def healthDocument : Json :=
  .fields [("status", .text "OK"), ("message", .text "SQL assistant is running")]

end AskTable

import AskTable.Table.Basic
import AskTable.Text.Case
import AskTable.Warehouse.Connect

/-!
# The catalog

* `descriptorOf`: the column that a row of the catalog speaks of.
* `describe`: the columns of the schema that the settings name.
-/

namespace AskTable.Warehouse

open AskTable.Text

/-- The text in a row under a label in capitals, or else in small letters. -/
def catalogText (r : Row) (label : String) : String :=
  ((r.get? (.ofText label)).getD (r.get (.ofText (String.ofList (lower label.toList))))).plainText

/-- The column that a row of the catalog speaks of (`_descriptor`). -/
def descriptorOf (r : Row) : Descriptor where
  table := .text (catalogText r "TABLE_NAME")
  column := .text (catalogText r "COLUMN_NAME")
  dataType := .text (catalogText r "DATA_TYPE")
  nullable := upper (catalogText r "IS_NULLABLE").toList == "YES".toList

/-- Asks for the columns of a schema; without one, for those of the current schema
(`SCHEMA_SQL`). -/
def catalogCommand (schema : Option String) : Command where
  text := .text ("SELECT TABLE_NAME, COLUMN_NAME, DATA_TYPE, IS_NULLABLE " ++
    "FROM INFORMATION_SCHEMA.COLUMNS WHERE TABLE_SCHEMA = COALESCE(%s, CURRENT_SCHEMA()) " ++
    "ORDER BY TABLE_NAME, ORDINAL_POSITION")
  parameters := some [(schema.map .text).getD .null]

/-- The columns of the schema that the settings name (`SnowflakeWarehouse.describe_schema`). -/
def describe (s : Service) (w : Warehouse) : Except Failure (List Descriptor) × Warehouse :=
  match ensureConnected s w with
  | (.error failure, w) => (.error failure, w)
  | (.ok _, w) =>
    let (reply, w) := send s (catalogCommand s.config.schema) w
    (reply.map fun rows => rows.map descriptorOf, w)

end AskTable.Warehouse

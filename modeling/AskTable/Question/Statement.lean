import AskTable.Cell.Text
import AskTable.Question.Identifier
import AskTable.Question.Plan
import AskTable.Table.Basic

/-!
# Statements from plans

* `Plan.statement`: the statement of a plan over a table.
* `planStatement`: the statement that answers a question over a schema.
-/

namespace AskTable.Question

open AskTable.Text

/-- The select list of a plan; a star when it names no column. -/
def Plan.selected (p : Plan) : String :=
  if p.columns.isEmpty then "*" else String.intercalate ", " p.columns

/-- The clause that sorts. -/
def Plan.orderClause (p : Plan) : String :=
  match p.orderBy with
  | none => ""
  | some name => " ORDER BY " ++ String.ofList (quoteIdentifier name.toList) ++
      (if p.descending then " DESC" else "")

/-- The clause that limits. -/
def Plan.limitClause (p : Plan) : String :=
  match p.limit with
  | none => ""
  | some n => " LIMIT " ++ natText n

/-- The statement of a plan over a table. -/
def Plan.statement (p : Plan) (table : String) : String :=
  "SELECT " ++ p.selected ++ " FROM " ++ table ++ p.orderClause ++ p.limitClause

/-- The table of the first descriptor; the local table when there is none. -/
def schemaTable (schema : List Descriptor) : String :=
  match schema with
  | [] => localTable
  | d :: _ => d.table.plainText

/-- A question as text; other values cannot be trimmed. -/
def questionText (question : Cell) : Except Fault String :=
  match question with
  | .text s => .ok s
  | .bytes _ => .error .bytesPattern
  | c => .error (.lacks c.kindName "strip")

/-- The statement that answers a question over a schema (`plan_sql`). -/
def planStatement (question : Cell) (schema : List Descriptor) : Except Fault String := do
  let plan ← Plan.ofQuestion (← questionText question) (schema.map (·.column))
  return plan.statement (schemaTable schema)

end AskTable.Question

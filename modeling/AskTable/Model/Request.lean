import AskTable.Cell.Text
import AskTable.Fault
import AskTable.Table.Basic

/-!
# Requests to a language model

* `schemaText`: a schema as the model is shown it, one column a line.
* `tableNames`: the tables of a schema, each once, in order.
* `prompt`: the question with the schema and the rules for an answer.
* `Request`: what is sent; only the first 50 descriptors are in it.
-/

namespace AskTable.Model

/-- One column: its table, its name and its type. -/
def descriptorText (d : Descriptor) : String :=
  d.table.plainText ++ "." ++ d.column.plainText ++ " (" ++ d.dataType.plainText ++ ")"

/-- A schema, one column a line (`schema_text`). -/
def schemaText (schema : List Descriptor) : String :=
  String.intercalate "\n" (schema.map descriptorText)

/-- The name of a table in a list; only texts can be joined. -/
def tableName (position : Nat) (c : Cell) : Except Fault String :=
  match c with
  | .text s => .ok s
  | c => .error (.noPiece position c.kindName)

/-- The tables of a schema, each once, in the order of their code points. -/
def tableNames (schema : List Descriptor) : Except Fault (List String) :=
  return ((← schema.mapM fun d => tableName 0 d.table).eraseDups).mergeSort fun a b => a ≤ b

/-- The tables in a row, or that there are none. -/
def tableList (names : List String) : String :=
  if names.isEmpty then "(none)" else String.intercalate ", " names

/-- The text that asks for a statement in a dialect. -/
def prompt (dialect question schema tables : String) : String :=
  "You are an expert SQL developer for " ++ dialect ++ ". Given the following database schema and user query, generate a SQL query.\n\n" ++
  "Database Schema:\n" ++ schema ++ "\n\n" ++
  "User Query: " ++ question ++ "\n\n" ++
  "Available tables: " ++ tables ++ "\n\n" ++
  "Generate a SQL query that:\n" ++
  "1. Uses ONLY the tables and columns listed above\n" ++
  "2. Handles the user's intent correctly\n" ++
  "3. Returns clean, structured data suitable for visualization\n" ++
  "4. Keeps the query simple and avoids joins unless specifically requested\n\n" ++
  "Return only the SQL query, no explanations or markdown formatting."

/-- What is sent to a model: one message of a user. -/
structure Request where
  apiKey : String
  model : String
  message : String
  deriving DecidableEq, Repr

/-- The most pieces of text that a reply may have. -/
def maxTokens : Nat := 500

/-- The request for a question. The schema is cut to its first descriptors before anything of it is
used but the names of its tables. -/
def Request.of (apiKey model dialect : String) (question : Cell) (schema : List Descriptor) :
    Except Fault Request :=
  return { apiKey
           model
           message := prompt dialect question.plainText (schemaText (schema.take maxDescriptors))
             (tableList (← tableNames schema)) }

end AskTable.Model

import AskTable.Cell.Text
import AskTable.Fault
import AskTable.Report.Json
import AskTable.Table.Basic
import AskTable.Text.Keyword

/-!
# Cells in documents

* `Cell.plain`: a cell as a JSON document; numbers beyond the finite ones become null, and what JSON
  has no form for becomes text.
* `Cell.strict`: a cell as a JSON document when it has one without conversion.
* `Row.plain`: a row as an object.
-/

namespace AskTable

open AskTable.Number

/-- A finite number, or null. -/
def finiteOrNull (x : Binary64) : Json := if x.isFinite then .float x else .null

namespace Cell

/-- The document of a value without parts. -/
def scalarPlain : Cell → Except Fault Json
  | .null => .ok .null
  | .bool b | .wordBool b => .ok (.bool b)
  | .int n | .wordInt n => .ok (.int n)
  | .float x | .wordFloat x => .ok (finiteOrNull x)
  | .text s => .ok (.text s)
  | .decimal d =>
    match d.toBinary64? with
    | some x => .ok (.float x)
    | none => .error .signalling
  | .moment m | .stamp (some m) => .ok (.text m.text)
  | .bytes b => .ok (.text (Text.hexOf b))
  | c => .ok (.text c.plainText)

mutual

/-- The document of a value (`to_jsonable`). -/
def plain : Cell → Except Fault Json
  | .boxed c => plain c
  | .list cells | .tuple cells => return .list (← plains cells)
  | .dict entries => return .object (← plainEntries entries)
  | .frame ⟨records, _⟩ => return .list (← plainRecords previewRows records)
  | c => c.scalarPlain

def plains : List Cell → Except Fault (List Json)
  | [] => .ok []
  | c :: cells => return (← plain c) :: (← plains cells)

def plainEntries : List (Cell × Cell) → Except Fault (List (String × Json))
  | [] => .ok []
  | e :: entries => return (← plainEntry e) :: (← plainEntries entries)

def plainEntry : Cell × Cell → Except Fault (String × Json)
  | (key, value) => return (key.plainText, ← plain value)

/-- The first records of a frame. -/
def plainRecords (count : Nat) : List (List (Cell × Cell)) → Except Fault (List Json)
  | [] => .ok []
  | r :: records =>
    match count with
    | 0 => .ok []
    | count + 1 => return .object (← plainEntries r) :: (← plainRecords count records)

end

/-! ## Without conversion -/

/-- The name of a value's kind without the place it belongs to. -/
def bareKind (c : Cell) : String :=
  String.ofList ((Text.splitOn '.' c.kindName.toList).getLast?.getD [])

/-- The name that a value gives to a member. -/
def memberName : Cell → Except Fault String
  | .text s => .ok s
  | .null => .ok "null"
  | .bool b => .ok (if b then "true" else "false")
  | .int n => .ok (Text.intText n)
  | .float x | .wordFloat x => .ok (Json.numberText x)
  | c => .error (.noMember c.bareKind)

mutual

/-- The document of a value that has one as it is. -/
def strict : Cell → Except Fault Json
  | .null => .ok .null
  | .bool b => .ok (.bool b)
  | .int n => .ok (.int n)
  | .float x | .wordFloat x => .ok (.float x)
  | .text s => .ok (.text s)
  | .list cells | .tuple cells => return .list (← stricts cells)
  | .dict entries => return .fields (← strictEntries entries)
  | c => .error (.noDocument c.bareKind)

def stricts : List Cell → Except Fault (List Json)
  | [] => .ok []
  | c :: cells => return (← strict c) :: (← stricts cells)

def strictEntries : List (Cell × Cell) → Except Fault (List (String × Json))
  | [] => .ok []
  | (key, value) :: entries => return (← memberName key, ← strict value) :: (← strictEntries entries)

end

end Cell

/-- A row as an object; labels with one text become one member. -/
def Row.plain (r : Row) : Except Fault Json :=
  return .object (← r.entries.mapM fun e => return (e.1.text, ← e.2.plain))

end AskTable

import AskTable.Error
import AskTable.File.Columns
import AskTable.File.Delimited
import AskTable.File.Disk
import AskTable.File.Workbook
import AskTable.Table.Basic

/-!
# Loading data files

The ending of a file's name tells how it is read.

* `Reader`, `reader?`: the readers, and the one for a path.
* `readRows`: the rows of a file.
* `loadTable`: its table; a file without rows is an error.
-/

namespace AskTable.File

open AskTable.Text

inductive Reader where
  | delimited
  | workbook
  | columnFile
  deriving DecidableEq, Repr

/-- The reader for an extension. -/
def Reader.ofExtension? : String → Option Reader
  | ".csv" => some .delimited
  | ".xlsx" | ".xls" => some .workbook
  | ".parquet" => some .columnFile
  | _ => none

/-- The reader for a path. -/
def reader? (path : String) : Option Reader := Reader.ofExtension? (extension path)

/-- The bytes that an archive starts with. -/
def archiveMark : List UInt8 := [0x50, 0x4B, 0x03, 0x04]

/-- The least size of a column file. -/
def leastColumnFile : Nat := 12

/-- The characters of a file with text, which is read in pieces. -/
def characters : Content → Except Fault (List Char)
  | .text s => .ok s.toList
  | .bytes b =>
    match decodeUtf8 b with
    | .ok s => .ok s
    | .error fault => .error (.encoding fault.ofPieces)
  | _ => .ok []

/-- Why bytes are no workbook. -/
def workbookFault (b : List UInt8) : Fault :=
  if archiveMark.isPrefixOf b then .brokenArchive else .unknownWorkbook

/-- Why bytes are no column file. -/
def columnFileFault (path : String) (b : List UInt8) : Fault :=
  if b.length < leastColumnFile then .shortColumnFile path else .noColumnMark path

/-- The rows of a file's content. -/
def Reader.rows (path : String) : Reader → Content → Except Fault (List Row)
  | .delimited, content => do delimitedRows (← characters content)
  | .workbook, .workbook sheets => .ok (workbookRows sheets)
  | .workbook, .text s => .error (workbookFault s.toUTF8.toList)
  | .workbook, .bytes b => .error (workbookFault b)
  | .workbook, .columns _ => .error .unknownWorkbook
  | .columnFile, .columns columns => .ok (columnFileRows columns)
  | .columnFile, .text s => .error (columnFileFault path s.toUTF8.toList)
  | .columnFile, .bytes b => .error (columnFileFault path b)
  | .columnFile, .workbook _ => .error (.noColumnMark path)

/-- The content for a reader; a column file that cannot be opened is not told apart. -/
def Reader.content (r : Reader) (disk : Disk) (path : String) : Except Fault Content :=
  match r, disk.read path with
  | .columnFile, .error _ => .error (.noColumnFile path)
  | _, content => content

/-- The rows of a file (`read_rows`). -/
def readRows (disk : Disk) (path : String) : Except Fault (List Row) :=
  match reader? path with
  | none =>
    let ext := extension path
    .error (.fileKind (if ext.isEmpty then path else ext))
  | some r => do r.rows path (← r.content disk path)

/-- The table of a file (`load_table`). -/
def loadTable (disk : Disk) (path : String) : Except Failure Table :=
  match readRows disk path with
  | .error fault => .error (.fault fault)
  | .ok [] => .error (.own
      { kind := .emptySource, message := "Data file is empty", details := some (baseName path) })
  | .ok rows => .ok ⟨rows⟩

end AskTable.File

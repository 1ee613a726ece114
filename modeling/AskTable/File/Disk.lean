import AskTable.Fault
import AskTable.File.Path
import AskTable.Table.Row

/-!
# Files and folders

* `Content`: what a file holds: text, other bytes, the sheets of a workbook or the columns of a
  column file.
* `Disk`: files and folders by path, seen from a working folder.
* `Disk.isFile`, `isFolder`, `names`, `read`: what is found at a path.
-/

namespace AskTable.File

/-- The kinds of a column in a column file. -/
inductive ColumnKind where
  | whole
  | real
  | decimal
  | struct
  | other
  deriving DecidableEq, Repr

/-- A column of a column file. -/
structure FileColumn where
  name : String
  kind : ColumnKind
  cells : List Cell

inductive Content where
  | text (s : String)
  | bytes (b : List UInt8)
  /-- The sheets of a workbook, each a list of rows. -/
  | workbook (sheets : List (List (List Cell)))
  | columns (columns : List FileColumn)

inductive Entry where
  | folder
  | file (content : Content)

/-- Entries by absolute path. -/
structure Disk where
  workingFolder : String
  entries : List (String × Entry)

namespace Disk

def entry? (d : Disk) (path : String) : Option Entry :=
  Entries.find? id (absolute d.workingFolder path) d.entries

/-- The folder at a path, with the slash that its entries have after it. -/
def below (d : Disk) (path : String) : String :=
  let folder := absolute d.workingFolder path
  if folder.toList.getLast? == some '/' then folder else folder ++ "/"

/-- The parts of a path below a folder. -/
def partsBelow? (folder path : String) : Option (List (List Char)) :=
  if folder.toList.isPrefixOf path.toList then
    some (splitOn '/' (path.toList.drop folder.length))
  else none
where splitOn := Text.splitOn

/-- Is there a folder, on its own or because something is in it? -/
def isFolder (d : Disk) (path : String) : Bool :=
  match d.entry? path with
  | some .folder => true
  | some (.file _) => false
  | none => d.entries.any fun e => (partsBelow? (d.below path) e.1).isSome

def isFile (d : Disk) (path : String) : Bool :=
  match d.entry? path with
  | some (.file _) => true
  | _ => false

/-- The names in a folder. -/
def names (d : Disk) (path : String) : List String :=
  (d.entries.filterMap fun e => do
    let name ← (← partsBelow? (d.below path) e.1).head?
    if name.isEmpty then none else some (String.ofList name)).eraseDups

/-- What the file at a path holds. -/
def read (d : Disk) (path : String) : Except Fault Content :=
  match d.entry? path with
  | some (.file content) => .ok content
  | _ => if d.isFolder path then .error (.directory path) else .error (.missingFile path)

/-- The disk with an entry at a path. -/
def put (d : Disk) (path : String) (e : Entry) : Disk :=
  { d with entries := Entries.put id (absolute d.workingFolder path) e d.entries }

/-- The disk without what is at a path. -/
def remove (d : Disk) (path : String) : Disk :=
  { d with entries := d.entries.filter fun e => e.1 != absolute d.workingFolder path }

end Disk

end AskTable.File

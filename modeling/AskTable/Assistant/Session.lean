import AskTable.File.Load
import AskTable.Table.Naming

/-!
# Sessions

A session says where the next answer comes from: from nowhere, from a data file or from the
warehouse.

* `Session`: the session; `Session.mode`, `table?` and `source?` are what is seen of it.
* `dataFile?`: the data file that is picked from a folder: of the supported files the one with the
  least name.
-/

namespace AskTable

open AskTable.File

inductive Mode where
  | idle
  | file
  | remote
  deriving DecidableEq, Repr

def Mode.name : Mode → String
  | .idle => "none"
  | .file => "local"
  | .remote => "remote"

/-- What is at hand to answer from (`Session`). -/
inductive Session where
  | idle
  /-- The table of the data file at a path. -/
  | file (path : String) (table : Table)
  | remote

namespace Session

def mode : Session → Mode
  | .idle => .idle
  | .file .. => .file
  | .remote => .remote

def table? : Session → Option Table
  | .file _ table => some table
  | _ => none

def source? : Session → Option String
  | .file path _ => some path
  | _ => none

end Session

/-- The names in a folder, in the order of their code points. -/
def sortedNames (disk : Disk) (folder : String) : List String :=
  (disk.names folder).mergeSort fun a b => a ≤ b

/-- Is there a file with data of this name in a folder? -/
def holdsData (disk : Disk) (folder name : String) : Bool :=
  isSupportedFile name && disk.isFile (join folder name)

/-- The path of the data file that is picked from a folder (`ModeController.find_data_file`). -/
def dataFile? (disk : Disk) (folder : String) : Option String :=
  if disk.isFolder folder then
    ((sortedNames disk folder).find? (holdsData disk folder)).map (join folder)
  else none

end AskTable

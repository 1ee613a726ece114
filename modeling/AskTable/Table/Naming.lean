import AskTable.Fault
import AskTable.Table.Basic
import AskTable.Text.Case
import AskTable.Text.Keyword

/-!
# What column and file names tell

* `sanitized`: a name cut down to ASCII letters, digits and underscores.
* `isDateLike`: does a name speak of dates or times?
* `isSupportedFile`, `Cell.namesData`: does a file's name say that its data can be read?
-/

namespace AskTable

open AskTable.Text

/-- The name without characters that are no ASCII letter, digit or underscore
(`sanitize_column_name`). -/
def sanitized (name : String) : String :=
  String.ofList (name.toList.filter fun c => c.isAlphanum || c == '_')

/-- Does the name speak of dates or times (`is_date_like_name`)? -/
def isDateLike (name : String) : Bool :=
  let name := lower name.toList
  occurs "date".toList name || occurs "time".toList name

/-- The endings of files with data (`SUPPORTED_EXTENSIONS`). -/
def dataEndings : List String := [".csv", ".xlsx", ".xls", ".parquet"]

/-- Does the file's name, in small letters, have one of the endings (`is_supported_file`)? -/
def isSupportedFile (name : String) : Bool :=
  let name := (lower name.toList).reverse
  dataEndings.any fun ending => ending.toList.reverse.isPrefixOf name

/-- Does a value name a file with data? Only a text can be a name. -/
def Cell.namesData : Cell → Except Fault Bool
  | .text s => .ok (isSupportedFile s)
  | .bytes _ => .error .textInBytes
  | c => .error (.lacks c.kindName "lower")

end AskTable

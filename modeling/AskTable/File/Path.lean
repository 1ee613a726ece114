import AskTable.Text.Case
import AskTable.Text.Keyword

/-!
# Paths

* `join`, `baseName`, `extension`: a path put together and taken apart.
* `normalize`: a path without empty and dotted parts.
* `absolute`: a path seen from a folder.
-/

namespace AskTable.File

open AskTable.Text

/-- The parts of a path between slashes. -/
def parts (path : String) : List (List Char) := splitOn '/' path.toList

/-- The last part of a path. -/
def baseName (path : String) : String := String.ofList ((parts path).getLast?.getD [])

def isAbsolute (path : String) : Bool := path.toList.head? == some '/'

/-- A path below a folder; an absolute path stands for itself. -/
def join (folder path : String) : String :=
  if isAbsolute path || folder.isEmpty then path
  else if folder.toList.getLast? == some '/' then folder ++ path
  else folder ++ "/" ++ path

/-- The last dot of a name and what follows it, in small letters. Dots that a name starts with do not
count. -/
def extension (path : String) : String :=
  let name := (baseName path).toList.dropWhile (· == '.')
  if name.contains '.' then
    String.ofList (lower ('.' :: (name.reverse.takeWhile (· != '.')).reverse))
  else ""

/-- Takes one part up: a dotted one leads back, unless there is nothing to leave. -/
def stepInto (rooted : Bool) (taken : List (List Char)) (part : List Char) : List (List Char) :=
  if part == [] || part == ['.'] then taken
  else if part != ['.', '.'] then part :: taken
  else match taken with
    | [] => if rooted then [] else [part]
    | last :: before => if last == ['.', '.'] then part :: taken else before

/-- The slashes that a path starts with: two are kept, more than two count as one. -/
def rootOf (path : String) : List Char :=
  match path.toList with
  | '/' :: '/' :: '/' :: _ => ['/']
  | '/' :: '/' :: _ => ['/', '/']
  | '/' :: _ => ['/']
  | _ => []

/-- A path without empty and dotted parts. -/
def normalize (path : String) : String :=
  let root := rootOf path
  let taken := (parts path).foldl (stepInto (!root.isEmpty)) []
  let text := root ++ List.intercalate ['/'] taken.reverse
  if text.isEmpty then "." else String.ofList text

/-- A path as seen from a folder. -/
def absolute (folder path : String) : String := normalize (join folder path)

end AskTable.File

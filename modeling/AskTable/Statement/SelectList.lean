import AskTable.Text.Keyword

/-!
# The select list of a statement

The list stands between the first `SELECT` that a blank follows and the nearest `FROM` after it that
follows a blank. Nothing is asked of what comes after `FROM`.

* `afterSelect?`: the text after that `SELECT`.
* `beforeFrom?`: the text before that `FROM`.
* `selectList?`: the pieces of the list.
-/

namespace AskTable.Statement

open AskTable.Text

def selectWord : List Char := "select".toList

def fromWord : List Char := "from".toList

/-- Does the text start with `FROM`? -/
def startsFrom (s : List Char) : Bool := (dropKeyword? fromWord s).isSome

/-- What follows the `SELECT` at the front, when that is a blank. -/
def selectHere? (s : List Char) : Option (List Char) :=
  (dropKeyword? selectWord s).filter fun rest => rest.head?.any isBlank

/-- What follows the first `SELECT` with a blank after it. -/
def afterSelect? : List Char → Option (List Char)
  | [] => none
  | c :: s => selectHere? (c :: s) <|> afterSelect? s

/-- What stands before the first blank with a `FROM` right after it. -/
def beforeFrom? : List Char → Option (List Char)
  | [] => none
  | c :: s => if isBlank c && startsFrom s then some [] else (beforeFrom? s).map (c :: ·)

/-- The pieces between commas, without the blanks around each. -/
def pieces (list : List Char) : List String := (splitOn ',' list).map fun p => String.ofList (trim p)

/-- The select list (`select_list`, `_SELECT_LIST_RE`). Three blanks between `SELECT` and `FROM`
hold an empty one. -/
def selectList? (s : List Char) : Option (List String) :=
  match afterSelect? s with
  | none => none
  | some rest =>
    let body := trimStart rest
    match beforeFrom? body with
    | some list => some (pieces list)
    | none => if startsFrom body && 3 ≤ rest.length - body.length then some [""] else none

end AskTable.Statement

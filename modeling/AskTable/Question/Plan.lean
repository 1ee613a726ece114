import AskTable.Cell.Basic
import AskTable.Fault
import AskTable.Question.Phrase
import AskTable.Text.Case

/-!
# Plans

A question in plain words is turned into a plan by rules: the columns it mentions, the column it
wants the rows sorted by, and the number of rows it asks for.

* `Plan`: what a question asks for.
* `findColumn?`: the column that a name means.
* `mentioned`: the columns that a question mentions.
* `Plan.ofQuestion`: the plan of a question over some columns.
-/

namespace AskTable.Question

open AskTable.Number AskTable.Text

/-- What a question asks for (`RulePlan`). -/
structure Plan where
  columns : List String
  orderBy : Option String
  descending : Bool
  limit : Option Nat
  deriving DecidableEq, Repr

/-- The text of a column name; a name of another kind has no small letters. -/
def nameText (c : Cell) : Except Fault String :=
  match c with
  | .text s => .ok s
  | c => .error (.lacks c.kindName "lower")

/-- A name in small letters. -/
def small (name : String) : List Char := lower name.toList

/-- The last column whose name in small letters is the token (`_find_column`). -/
def findColumn? (names : List String) (token : List Char) : Option String :=
  names.reverse.find? fun name => small name == token

/-- Every occurrence of one character replaced by another. -/
def swapped (old new : Char) (s : List Char) : List Char :=
  s.map fun c => if c == old then new else c

/-- The column that a name in words means, its blanks read as underscores first. A column without a
name is none. -/
def sortColumn? (names : List String) (phrase : List Char) : Option String :=
  let token := trim phrase
  let named (s : String) : Bool := !s.isEmpty
  (findColumn? names (swapped ' ' '_' token)).filter named <|>
    (findColumn? names token).filter named

/-- Does the question mention a name, its underscores read as they are or as blanks? -/
def isMentioned (question : List Char) (name : String) : Bool :=
  occursBounded (small name) question || occursBounded (swapped '_' ' ' (small name)) question

/-- The columns that a question mentions, in table order (`_mentioned_columns`). -/
def mentioned (question : List Char) (names : List String) : List String :=
  names.filter (isMentioned question)

/-- The number of rows that a question asks for. -/
def limitOf (question : List Char) : Except Fault (Option Nat) :=
  match limitPhrase? question with
  | none => .ok none
  | some digits =>
    if maxDigits < digits.length then .error (.whole (.tooLong digits.length))
    else .ok (some (natOf digits))

/-- The column to sort by, and the direction. -/
def sortOf (question : List Char) (names : List Cell) :
    Except Fault (Option (String × Direction)) :=
  match sortPhrase? question with
  | none => .ok none
  | some (phrase, direction) => do
    let texts ← names.mapM nameText
    return (sortColumn? texts phrase).map fun column => (column, direction)

/-- The columns to show; none when the question speaks of everything. -/
def columnsOf (question : List Char) (names : List Cell) : Except Fault (List String) :=
  if asksForAll question then .ok [] else return mentioned question (← names.mapM nameText)

/-- A question in small letters, without blanks at its ends. -/
def normalized (question : String) : List Char := lower (trim question.toList)

/-- The plan of a question over columns with these names (`parse_question`). -/
def Plan.ofQuestion (question : String) (names : List Cell) : Except Fault Plan := do
  let question := normalized question
  let limit ← limitOf question
  let sort ← sortOf question names
  let columns ← columnsOf question names
  return { columns
           orderBy := sort.map (·.1)
           descending := sort.any fun s => s.2 == .descending
           limit }

end AskTable.Question

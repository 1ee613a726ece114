import AskTable.Cell.Basic
import AskTable.Fault
import AskTable.Text.Case
import AskTable.Text.Keyword

/-!
# How complex a statement is

* `Complexity`: a level and the features that a statement shows.
* `Complexity.assess`: both, told by words in its upper-case form.
-/

namespace AskTable.Statement

open AskTable.Text

structure Complexity where
  level : String
  features : List String
  deriving DecidableEq, Repr

/-- A word of a statement and the feature it shows. -/
def featureWords : List (String × String) :=
  [("GROUP BY", "aggregation"), ("WHERE", "filtering"), ("ORDER BY", "sorting"), ("JOIN", "joining")]

def Complexity.ofText (s : List Char) : Complexity :=
  let shown := (featureWords.filter fun w => occurs w.1.toList (upper s)).map (·.2)
  let level := if shown.contains "joining" then "complex"
    else if shown.contains "aggregation" then "medium" else "simple"
  ⟨level, shown⟩

/-- The complexity of any value: of a value that counts as nothing that of an empty text
(`assess_query_complexity`). -/
def Complexity.assess : Cell → Except Fault Complexity
  | .text s => .ok (.ofText s.toList)
  | .bytes (_ :: _) => .error .textInBytes
  | c => if c.truthy then .error (.lacks c.kindName "upper") else .ok (.ofText [])

end AskTable.Statement

import AskTable.Fault
import AskTable.Report.Envelope

/-!
# The screen

* `Item`: one thing that is shown.
* `Screen`: which texts with marks can be drawn.
* `Drawing`: a thing to show, with its texts that may hold marks.
* `Drawing.rows`: rows with their labels.
* `Drawing.statement`, `results`: everything that is shown of an envelope.
-/

namespace AskTable.Terminal

open AskTable.Report

inductive Item where
  /-- A document, written as it is. -/
  | document (text : String)
  /-- A text in a frame. -/
  | panel (text : String) (title : Option String)
  | table (title : String) (columns : List String) (cells : List (List String))
  /-- A line; its brackets may be marks. -/
  | line (text : String) (marks : Bool)
  /-- A question to the user. -/
  | prompt (text : String)
  deriving DecidableEq, Repr

/-- How texts are drawn whose brackets may be marks. -/
structure Screen where
  /-- Why a text cannot be drawn, if it cannot. -/
  fault? : String → Option Fault
  /-- A text without an opening bracket holds no mark and can be drawn. -/
  unmarked : ∀ text, '[' ∉ text.toList → fault? text = none

/-- The screen that draws every text as it is. -/
def Screen.plain : Screen where
  fault? _ := none
  unmarked _ _ := rfl

/-- A thing to show. -/
structure Drawing where
  item : Item
  /-- The texts in it that may hold marks, in the order in which they are drawn. -/
  marked : List String

/-- Why a thing cannot be drawn, if it cannot. -/
def Screen.faultIn? (screen : Screen) (d : Drawing) : Option Fault :=
  d.marked.findSome? screen.fault?

def Screen.draws (screen : Screen) (d : Drawing) : Bool := (screen.faultIn? d).isNone

namespace Drawing

/-- A text in a frame without a title. -/
def note (text : String) : Drawing := ⟨.panel text none, [text]⟩

/-- A document on the screen, indented, with a line feed after it. -/
def ofJson (j : Json) : Drawing := ⟨.document (j.render (some 2) ++ "\n"), []⟩

/-- A question to the user. -/
def prompt (text : String) : Drawing := ⟨.prompt text, [text]⟩

/-- Characters that move the cursor and are not shown. -/
def isControl (c : Char) : Bool := ['\x07', '\x08', '\x0b', '\x0c', '\r'].contains c

/-- A cell on the screen; there is nothing to see of a missing one. -/
def shown : Cell → String
  | .null => ""
  | c => String.ofList (c.plainText.toList.filter fun c => !isControl c)

/-- A list that is filled up with empty texts to some length. -/
def padded (width : Nat) (texts : List String) : List String :=
  texts ++ List.replicate (width - texts.length) ""

/-- Rows under the labels of the first one. Longer rows add columns without a label, and shorter ones
are filled up. The brackets of a cell are no marks, but those of a label are. -/
def grid (title : String) (rows : List Row) : Drawing :=
  let labels := (firstColumns rows).map Label.text
  let cells := rows.map fun r => r.cells.map shown
  let width := cells.foldl (fun n r => max n r.length) labels.length
  ⟨.table title (padded width labels) (cells.map (padded width)), labels ++ [title]⟩

/-- Rows, or that there are none (`_render_rows`). -/
def rows (title : String) (rows : List Row) : Drawing :=
  if rows.isEmpty then note "No rows returned" else grid title rows

/-- The findings, the advice and the complexity of an envelope, one a line. -/
def insightLines (e : Envelope) : List String :=
  e.insights.findings.map ("- " ++ ·) ++ e.insights.recommendations.map ("* " ++ ·) ++
    ["Query complexity: " ++ e.complexity.level ++
      (if e.complexity.features.isEmpty then ""
       else " (" ++ String.intercalate ", " e.complexity.features ++ ")")]

/-- A text in a frame with a title. -/
def titled (text title : String) : Drawing := ⟨.panel text (some title), [title, text]⟩

/-- What is shown before the answer. The brackets of the statement are no marks. -/
def statement (e : Envelope) : List Drawing :=
  [note "Executed SQL:", ⟨.line e.statement.plainText false, []⟩]

/-- The answer and what follows it. -/
def results (e : Envelope) (answer : String) : List Drawing :=
  [⟨.line answer true, [answer]⟩,
    rows ("preview (" ++ Text.natText e.preview.length ++ " of " ++ Text.natText e.fullCount ++
      " rows)") e.preview,
    titled (String.intercalate "\n" (insightLines e)) "Insights"]

end Drawing

end AskTable.Terminal

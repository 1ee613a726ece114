import AskTable.Text.Keyword

/-!
# Fenced replies

A language model may set its statement between fences of three backticks, the first with the tag
`sql`.

* `unfenced?`: the text between the outer fences.
* `stripFences`: a reply without its fences, its tag and the blanks around it.
-/

namespace AskTable.Model

open AskTable.Text

def fence : List Char := "\x60\x60\x60".toList

def tag : List Char := "sql".toList

/-- The text without a piece at its end. -/
def dropEnd? (piece s : List Char) : Option (List Char) :=
  if piece.isSuffixOf s then some (s.take (s.length - piece.length)) else none

/-- The text between a fence at the front and another one at the end (`_FENCE_RE`). -/
def unfenced? (s : List Char) : Option (List Char) :=
  if fence.isPrefixOf s then dropEnd? fence (s.drop fence.length) else none

/-- The text without the tag at its front. -/
def dropTag (s : List Char) : List Char := (dropKeyword? tag s).getD s

/-- A reply without blanks around it, and without its fences if it has two (`strip_fences`). -/
def stripFences (s : List Char) : List Char :=
  match unfenced? (trim s) with
  | some body => trim (dropTag body)
  | none => trim s

/-- `stripFences` on strings. -/
def withoutFences (s : String) : String := String.ofList (stripFences s.toList)

end AskTable.Model

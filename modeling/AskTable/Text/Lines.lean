/-!
# Ends of lines

* `unifyLines`: a text in which a line feed alone ends a line.
-/

namespace AskTable.Text

/-- A text in which every line ends with a line feed alone. -/
def unifyLines : List Char → List Char
  | [] => []
  | '\r' :: '\n' :: s => '\n' :: unifyLines s
  | '\r' :: s => '\n' :: unifyLines s
  | c :: s => c :: unifyLines s

end AskTable.Text

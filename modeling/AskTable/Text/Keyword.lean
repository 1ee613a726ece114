import AskTable.Text.Blank

/-!
# Keywords in any letter case

A keyword is a word of ASCII letters that a statement may write in either case. Beyond the two
ASCII cases, the letter `s` may be a long s, `k` a Kelvin sign, and `i` a dotted capital or a
dotless small i.

* `sameLetter`: does a character write a given letter?
* `dropKeyword?`: the text after a keyword at its front.
* `occurs`: a piece occurs somewhere in a text.
-/

namespace AskTable.Text

/-- Characters beyond ASCII that write an ASCII letter, by its small form. -/
def otherForms (letter : Char) : List Char :=
  match letter with
  | 's' => ['ſ']
  | 'k' => ['\u212A']
  | 'i' => ['İ', 'ı']
  | _ => []

/-- Does `c` write the ASCII letter `letter`, in either case? -/
def sameLetter (letter c : Char) : Bool :=
  c.toLower == letter.toLower || (otherForms letter.toLower).contains c

/-- What follows the keyword at the front of the text, if it stands there. -/
def dropKeyword? : List Char → List Char → Option (List Char)
  | [], s => some s
  | _ :: _, [] => none
  | k :: word, c :: s => if sameLetter k c then dropKeyword? word s else none

/-- What follows the blanks at the front of the text; at least one has to be there. -/
def dropBlanks? : List Char → Option (List Char)
  | [] => none
  | c :: s => if isBlank c then some (trimStart s) else none

/-- Does `piece` occur in the text? -/
def occurs (piece : List Char) : List Char → Bool
  | [] => piece.isEmpty
  | c :: s => piece.isPrefixOf (c :: s) || occurs piece s

/-- The pieces of a text between the separators. -/
def splitOn (separator : Char) : List Char → List (List Char)
  | [] => [[]]
  | c :: s =>
    match splitOn separator s with
    | [] => [[]]
    | piece :: pieces => if c == separator then [] :: piece :: pieces else (c :: piece) :: pieces

theorem splitOn_ne_nil (separator : Char) (s : List Char) : splitOn separator s ≠ [] := by
  cases s with
  | nil => simp [splitOn]
  | cons c s =>
    simp only [splitOn]
    split
    · simp
    · split <;> simp

end AskTable.Text

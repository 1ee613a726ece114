import AskTable.Text.Blank
import AskTable.Text.WordTable

/-!
# Words and their boundaries

A word is a run of letters, numerals and underscores. A boundary lies between a word character and
a place without one, so a text that is empty or holds no word has none.

* `isWord`: the class of word characters.
* `boundary`: is there a boundary between two neighbours?
* `bounded`, `occursBounded`: a text occurs with a boundary at both of its ends.
-/

namespace AskTable.Text

def isWord (c : Char) : Bool :=
  if c.toNat < 128 then c.isAlphanum || c == '_' else inRanges wordRanges c

/-- Is there a word character at this end of a text? -/
def wordAt (c : Option Char) : Bool := c.any isWord

/-- A boundary lies between two neighbours of which exactly one is a word character. -/
def boundary (before after : Option Char) : Bool := wordAt before != wordAt after

/-- The character on the near side of a boundary after the piece `s`, which follows `before`. -/
def lastOr (before : Option Char) (s : List Char) : Option Char := s.getLast? <|> before

/-- Does `piece` stand at the front of `s`, which follows `before`, with a boundary at both ends? -/
def bounded (piece : List Char) (before : Option Char) (s : List Char) : Bool :=
  piece.isPrefixOf s && boundary before s.head? &&
    boundary (lastOr before piece) (s.drop piece.length).head?

/-- Does `piece` occur anywhere in `s`, which follows `before`, with a boundary at both ends? -/
def occursBoundedAfter (piece : List Char) (before : Option Char) : List Char → Bool
  | [] => bounded piece before []
  | c :: s => bounded piece before (c :: s) || occursBoundedAfter piece (some c) s

def occursBounded (piece s : List Char) : Bool := occursBoundedAfter piece none s

end AskTable.Text

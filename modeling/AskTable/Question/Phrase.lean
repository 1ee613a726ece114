import AskTable.Text.Digit
import AskTable.Text.Keyword
import AskTable.Text.Word

/-!
# Phrases of a question

A question is in small letters and without blanks at its ends. Two phrases are looked for, each at
the first word where all of it stands. These are the patterns of `parse_question`.

* `firstAtWord?`: the first match of a pattern that starts where a word starts or ends.
* `limitPhrase?`: `first`, `top` or `limit`, and the digits after it.
* `sortPhrase?`: `sort by` and its variants, the name after it and the direction at the end.
* `asksForAll`: does the question speak of everything?
-/

namespace AskTable.Question

open AskTable.Text

/-- The first match at a place with a boundary; `before` stands in front of the text. -/
def firstAtWordAfter? (pattern : List Char → Option α) (before : Option Char) :
    List Char → Option α
  | [] => none
  | c :: s =>
    (if boundary before (some c) then pattern (c :: s) else none) <|>
      firstAtWordAfter? pattern (some c) s

/-- The first match of a pattern where a word starts or ends. -/
def firstAtWord? (pattern : List Char → Option α) (s : List Char) : Option α :=
  firstAtWordAfter? pattern none s

/-- What follows a word at the front of a text. -/
def after? (word : String) (s : List Char) : Option (List Char) :=
  if word.toList.isPrefixOf s then some (s.drop word.length) else none

/-- What follows one of several words and at least one blank. -/
def afterWord? (words : List String) (s : List Char) : Option (List Char) :=
  words.findSome? fun word => (after? word s).bind dropBlanks?

/-- The digits of a limit at the front of a text; the word that they are ends with them. -/
def limitHere? (s : List Char) : Option (List Char) := do
  let rest ← afterWord? ["first", "top", "limit"] s
  match spanDigits rest with
  | ([], _) => none
  | (digits, rest) => if boundary digits.getLast? rest.head? then some digits else none

/-- The digits of the first limit. -/
def limitPhrase? (s : List Char) : Option (List Char) := firstAtWord? limitHere? s

/-- The way in which rows are sorted. -/
inductive Direction where
  | ascending
  | descending
  deriving DecidableEq, Repr

/-- A text that ends a sort phrase: nothing, or blanks and a word that starts with the name of a
direction. -/
def direction? (s : List Char) : Option Direction :=
  match s with
  | [] => some .ascending
  | s => do
    let rest ← dropBlanks? s
    if !rest.all isWord then failure
    if (after? "desc" rest).isSome then some .descending
    else if (after? "asc" rest).isSome then some .ascending
    else none

/-- The characters of a name after a sort phrase. -/
def isNameChar (c : Char) : Bool := c.isLower || c.isDigit || c == '_' || c == ' '

/-- The shortest name at the front of a text that a direction follows to the end. -/
def sortName? : List Char → Option (List Char × Direction)
  | [] => none
  | c :: s =>
    if isNameChar c then
      match direction? s with
      | some d => some ([c], d)
      | none => (sortName? s).map fun (name, d) => (c :: name, d)
    else none

/-- The name and direction after blanks. At least one blank is taken; more are taken if a name can
follow them, and otherwise they are left to the name. -/
def sortNameAfter? : List Char → Option (List Char × Direction)
  | [] => none
  | c :: s => if isBlank c then sortNameAfter? s <|> sortName? s else none

/-- The name and direction of a sort phrase at the front of a text. -/
def sortHere? (s : List Char) : Option (List Char × Direction) := do
  let rest ← afterWord? ["sorted", "sort", "ordered", "order"] s
  let rest ← after? "by" rest
  sortNameAfter? rest

/-- The name and direction of the first sort phrase. -/
def sortPhrase? (s : List Char) : Option (List Char × Direction) := firstAtWord? sortHere? s

/-- Does the question speak of everything? -/
def asksForAll (s : List Char) : Bool :=
  occursBounded "everything".toList s || occursBounded "all".toList s

end AskTable.Question

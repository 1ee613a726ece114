import AskTable.Cell.Basic
import AskTable.Number.Numeral

/-!
# Columns of a sheet

Each column takes one kind as far as its cells allow: numbers, also written as text, truth values or
moments. A column of numbers with gaps or fractions is one of binary numbers.

* `Reading`: what a cell counts as.
* `stampable?`: the moments that a column of stamps can hold.
* `columnCells`: the cells of a column in its kind.
-/

namespace AskTable.File

open AskTable.Calendar AskTable.Number AskTable.Text

/-- A list without the elements at its end that a test holds of. -/
def dropEnd (test : α → Bool) (xs : List α) : List α := (xs.reverse.dropWhile test).reverse

/-- The texts that stand for a missing cell. -/
def gapTexts : List String := ["", "#N/A", "#N/A N/A", "#NA", "-1.#IND", "-1.#QNAN", "-NaN", "-nan",
  "1.#IND", "1.#QNAN", "<NA>", "N/A", "NA", "NULL", "NaN", "None", "n/a", "nan", "null"]

/-- What a cell counts as in its column. -/
inductive Reading where
  | gap
  | whole (n : Int)
  | real (x : Binary64)
  | truth (b : Bool)
  | other
  deriving DecidableEq, Repr

/-- The blanks that may surround a number in a cell. -/
def isAsciiBlank (c : Char) : Bool := c.toNat < 128 && isBlank c && c.toNat < 0x1C || c == ' '

/-- The texts of the infinities, in small letters. -/
def infinityOf? (s : String) : Option Binary64 :=
  match s.toLower with
  | "inf" | "+inf" | "infinity" | "+infinity" => some (.infinite false)
  | "-inf" | "-infinity" => some (.infinite true)
  | _ => none

/-- The greatest and least integers that a column of integers holds. -/
def inWord (n : Int) : Bool := -(twoTo 63 : Int) ≤ n && n < twoTo 64

/-- What a text counts as. -/
def readText (s : String) : Reading :=
  if gapTexts.contains s then .gap
  else
    let body := dropEnd isAsciiBlank (s.toList.dropWhile isAsciiBlank)
    match Numeral.read? body with
    | some (numeral, []) =>
      if !body.all fun c => c.toNat < 128 then .other
      else if numeral.point || numeral.exponent.isSome then
        if numeral.value.isFinite then .real numeral.value else .other
      else
        let n := signed numeral.sign (natOf numeral.whole)
        if inWord n then .whole n else .other
    | _ => ((infinityOf? s).map .real).getD .other

def Reading.of : Cell → Reading
  | .text s => readText s
  | .int n => .whole n
  | .float x => if x.isNaN then .gap else .real x
  | .bool b => .truth b
  | _ => .other

/-- Does it need a column of binary numbers? -/
def Reading.isReal : Reading → Bool
  | .gap | .real _ => true
  | .whole n => !inWord n
  | _ => false

def Reading.isTruth : Reading → Bool
  | .truth _ => true
  | _ => false

/-- A reading in a column of binary numbers. -/
def Reading.asReal : Reading → Cell
  | .whole n => .float ((Binary64.ofInt? n).getD .nan)
  | .real x => .float x
  | .truth b => .float (.ofRatio false b.toNat 1)
  | _ => .null

/-- A reading in a column of integers. -/
def Reading.asWhole : Reading → Cell
  | .whole n => .int n
  | .truth b => .int b.toNat
  | _ => .null

/-- Is it an integer above those that may be negative? -/
def Reading.isHigh : Reading → Bool
  | .whole n => (twoTo 63 : Int) ≤ n && n < twoTo 64
  | _ => false

def Reading.isGapOrNegative : Reading → Bool
  | .gap => true
  | .whole n => n < 0
  | _ => false

/-- The truth value of a cell, also written as text. -/
def truth? : Cell → Option Bool
  | .bool b => some b
  | .text "True" | .text "TRUE" | .text "true" => some true
  | .text "False" | .text "FALSE" | .text "false" => some false
  | _ => none

def isGapCell (c : Cell) : Bool := Reading.of c == .gap

/-- A cell with its gaps missing. -/
def withGap (f : Cell → Cell) (c : Cell) : Cell := if isGapCell c then .null else f c

/-- The first moment that a stamp holds. -/
def firstStamp : Moment := ⟨⟨1677, 9, 21⟩, ⟨0, 12, 43, 145224193⟩, none⟩

/-- The last moment that a stamp holds. -/
def lastStamp : Moment := ⟨⟨2262, 4, 11⟩, ⟨23, 47, 16, 854775807⟩, none⟩

/-- The moment of a cell that a stamp can hold. -/
def stampable? : Cell → Option Moment
  | .moment m =>
    if firstStamp.instant ≤ m.instant && m.instant ≤ lastStamp.instant then some m else none
  | _ => none

/-- The cells of a column that is not one of numbers. -/
def objectCells (cells : List Cell) : List Cell :=
  if cells.all fun c => isGapCell c || (truth? c).isSome then
    cells.map (withGap fun c => .bool ((truth? c).getD false))
  else if cells.all fun c => isGapCell c || (stampable? c).isSome then
    cells.map (withGap fun c => .stamp (stampable? c))
  else cells.map (withGap id)

/-- The cells of a column in its kind. -/
def columnCells (cells : List Cell) : List Cell :=
  let readings := cells.map Reading.of
  if readings.contains .other then objectCells cells
  else if readings.any Reading.isHigh && readings.any Reading.isGapOrNegative then cells
  else if readings.any Reading.isReal then readings.map Reading.asReal
  else if readings.all Reading.isTruth then cells
  else readings.map Reading.asWhole

end AskTable.File

import AskTable.Cell.Basic
import AskTable.Number.Numeral
import AskTable.Text.Lines
import AskTable.Text.Utf8

/-!
# Cells as a workbook stores them

A workbook keeps numbers with sixteen digits, and moments, times and spans to the millisecond. A
formula has no value, and a text that names an error of a formula is a number that is none.

* `storedNumber`, `storedText`, `storedMoment`, `storedTime`, `storedSpan`: what is kept of each kind.
* `storedCell`: a cell as a workbook gives it back.
-/

namespace AskTable.File

open AskTable.Calendar AskTable.Number AskTable.Text

/-- The texts that stand for an error of a formula. -/
def errorTexts : List String :=
  ["#NULL!", "#DIV/0!", "#VALUE!", "#REF!", "#NAME?", "#NUM!", "#N/A"]

/-- A number as it is stored: with sixteen digits, and as an integer when it has no fraction. -/
def storedNumber (x : Binary64) : Cell :=
  if !x.isFinite then .text ""
  else match Numeral.read? (compactText 16 x).toList with
    | none => .text ""
    | some (numeral, _) =>
      match numeral.value.toInt? with
      | some n => .int n
      | none => .float numeral.value

/-- An integer as it is stored; one of up to fifteen digits loses none of them. -/
def storedInteger (n : Int) : Cell :=
  if n.natAbs < tenTo 15 then .int n else storedNumber ((Binary64.ofInt? n).getD .nan)

/-- How many characters of a text are stored. -/
def storedLength : Nat := 32767

/-- A text that is a formula has no value; one that names an error is a number that is none. -/
def storedText (text : List Char) : Cell :=
  let s := text.take storedLength
  if s.head? == some '=' && s.length != 1 then .text ""
  else if errorTexts.contains (String.ofList s) then .float .nan
  else .text (String.ofList (unifyLines s))

/-- The milliseconds of a time of day, to the nearest. -/
def millis (c : Clock) : Nat := roundDiv c.sinceMidnight 1000000

/-- A day's length in milliseconds. -/
def dayMillis : Nat := 86400000

/-- The time of day at a number of milliseconds. -/
def clockAt (ms : Nat) : Clock :=
  ⟨ms / 3600000, ms / 60000 % 60, ms / 1000 % 60, ms % 1000 * 1000000⟩

/-- A time to the nearest millisecond; the one that is rounded up to a whole day is a moment. -/
def storedTime (t : Clock) : Cell :=
  let ms := millis t
  if ms < dayMillis then .time ⟨clockAt ms, none⟩ else .moment ⟨⟨1900, 1, 1⟩, midnight, none⟩

/-- The two days before 1900 have no number of their own. -/
def isUnnumbered (d : Date) : Bool := d == ⟨1899, 12, 30⟩ || d == ⟨1899, 12, 31⟩

/-- A moment to the nearest millisecond; of an unnumbered day only the time is kept. -/
def storedMoment (m : Moment) : Cell :=
  let ms := millis m.clock
  if isUnnumbered m.date then storedTime m.clock
  else if ms < dayMillis then .moment ⟨m.date, clockAt ms, none⟩
  else .moment ⟨m.date.next, midnight, none⟩

/-- A span to the nearest millisecond. -/
def storedSpan (s : Span) : Span :=
  let ms := s.seconds * 1000 + roundDiv s.micros 1000
  if ms < dayMillis then ⟨s.days, ms / 1000, ms % 1000 * 1000⟩ else ⟨s.days + 1, 0, 0⟩

/-- A cell as the workbook gives it back. -/
def storedCell : Cell → Cell
  | .null | .stamp none => .text ""
  | .text s => storedText s.toList
  | .bytes b => ((decodeUtf8 b).toOption.map storedText).getD (.bytes b)
  | .int n | .wordInt n => storedInteger n
  | .float x | .wordFloat x => storedNumber x
  | .decimal d => storedNumber (d.toBinary64?.getD .nan)
  | .date d => storedMoment ⟨d, midnight, none⟩
  | .moment m | .stamp (some m) => storedMoment m
  | .time t => storedTime t.clock
  | .span s => .span (storedSpan s)
  | c => c

end AskTable.File

import AskTable.Text.Digit

/-!
# Dates

Days of the Gregorian calendar, extended to all years.

* `Date`: a year, a month and a day of it.
* `Date.dayNumber`: the days since the first day of year 1.
* `Date.text`, `Date.read?`: the form `2024-02-29`.
-/

namespace AskTable.Calendar

open AskTable.Text

structure Date where
  year : Nat
  month : Nat
  day : Nat
  deriving DecidableEq, Repr

/-- The digits of a number, padded with zeros to a width. -/
def padded (width n : Nat) : List Char :=
  let digits := digitsOf n
  List.replicate (width - digits.length) '0' ++ digits

def isLeap (year : Nat) : Bool := year % 4 == 0 && (year % 100 != 0 || year % 400 == 0)

def monthLength (year month : Nat) : Nat :=
  match month with
  | 2 => if isLeap year then 29 else 28
  | 4 | 6 | 9 | 11 => 30
  | _ => 31

namespace Date

/-- Is it a day of the calendar? -/
def valid (d : Date) : Bool :=
  1 ≤ d.year && 1 ≤ d.month && d.month ≤ 12 && 1 ≤ d.day && d.day ≤ monthLength d.year d.month

/-- The day after. -/
def next (d : Date) : Date :=
  if d.day < monthLength d.year d.month then ⟨d.year, d.month, d.day + 1⟩
  else if d.month < 12 then ⟨d.year, d.month + 1, 1⟩
  else ⟨d.year + 1, 1, 1⟩

/-- The days from the first day of year 1. -/
def dayNumber (d : Date) : Nat :=
  let years := d.year - 1
  let months := (List.range (d.month - 1)).map fun m => monthLength d.year (m + 1)
  365 * years + years / 4 - years / 100 + years / 400 + months.foldl (· + ·) 0 + (d.day - 1)

def chars (d : Date) : List Char :=
  padded 4 d.year ++ '-' :: padded 2 d.month ++ '-' :: padded 2 d.day

def text (d : Date) : String := String.ofList d.chars

end Date

/-- A number of exactly `count` digits at the front of a text. -/
def readDigits? : (count : Nat) → List Char → Option (Nat × List Char)
  | count, s =>
    let digits := s.take count
    if digits.length == count && digits.all Char.isDigit then some (natOf digits, s.drop count)
    else none

/-- The text after a character at its front. -/
def skip? (c : Char) : List Char → Option (List Char)
  | [] => none
  | d :: s => if c == d then some s else none

/-- A date at the front of a text. -/
def Date.read? (s : List Char) : Option (Date × List Char) := do
  let (year, s) ← readDigits? 4 s
  let s ← skip? '-' s
  let (month, s) ← readDigits? 2 s
  let s ← skip? '-' s
  let (day, s) ← readDigits? 2 s
  let date : Date := ⟨year, month, day⟩
  if date.valid then some (date, s) else none

end AskTable.Calendar

import AskTable.Calendar.Date
import AskTable.Number.Power

/-!
# Times of day

* `Clock`: hour, minute, second and billionths of it.
* `Offset`: how far a local time is ahead of the universal one.
* `Clock.text`, `Offset.text`: the forms `12:30:05.250000` and `+05:30`.
-/

namespace AskTable.Calendar

open AskTable.Number AskTable.Text

/-- A time of day. `nanos` is below 10^9. -/
structure Clock where
  hour : Nat
  minute : Nat
  second : Nat
  nanos : Nat
  deriving DecidableEq, Repr

/-- The seconds by which a local time is ahead of the universal one. -/
structure Offset where
  seconds : Int
  deriving DecidableEq, Repr

def midnight : Clock := ⟨0, 0, 0, 0⟩

namespace Clock

/-- The billionths of a second since midnight. -/
def sinceMidnight (c : Clock) : Nat :=
  ((c.hour * 60 + c.minute) * 60 + c.second) * 1000000000 + c.nanos

/-- The fraction of the second: none, six digits, or nine where six are not enough. -/
def fraction (c : Clock) : List Char :=
  if c.nanos == 0 then []
  else if c.nanos % 1000 == 0 then '.' :: padded 6 (c.nanos / 1000)
  else '.' :: padded 9 c.nanos

def chars (c : Clock) : List Char :=
  padded 2 c.hour ++ ':' :: padded 2 c.minute ++ ':' :: padded 2 c.second ++ c.fraction

end Clock

/-- A sign, hours and minutes, and seconds where there are some. -/
def Offset.chars (o : Offset) : List Char :=
  let size := o.seconds.natAbs
  let seconds := size % 60
  (if o.seconds < 0 then '-' else '+') :: padded 2 (size / 3600) ++ ':' ::
    padded 2 (size / 60 % 60) ++ (if seconds == 0 then [] else ':' :: padded 2 seconds)

/-- The fraction of a second in up to nine digits. -/
def readFraction? : List Char → Option (Nat × List Char)
  | '.' :: s =>
    let digits := s.takeWhile Char.isDigit
    if digits.isEmpty || 9 < digits.length then none
    else some (natOf digits * tenTo (9 - digits.length), s.drop digits.length)
  | s => some (0, s)

/-- A number of two digits after a colon; zero when no colon follows. -/
def readPart? : List Char → Option (Nat × List Char)
  | ':' :: s => readDigits? 2 s
  | s => some (0, s)

/-- A time of day at the front of a text. -/
def Clock.read? (s : List Char) : Option (Clock × List Char) := do
  let (hour, s) ← readDigits? 2 s
  let (minute, s) ← readPart? s
  let (second, s) ← readPart? s
  let (nanos, s) ← readFraction? s
  if hour < 24 && minute < 60 && second < 60 then some (⟨hour, minute, second, nanos⟩, s) else none

/-- What is left of a text is an offset, or nothing. -/
def Offset.read? : List Char → Option (Option Offset)
  | [] => some none
  | ['Z'] => some (some ⟨0⟩)
  | sign :: s => do
    if sign != '+' && sign != '-' then failure
    let (clock, rest) ← Clock.read? s
    if !rest.isEmpty then failure
    let seconds : Int := (clock.sinceMidnight / 1000000000 : Nat)
    some (some ⟨if sign == '-' then -seconds else seconds⟩)

end AskTable.Calendar

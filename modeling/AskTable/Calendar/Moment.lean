import AskTable.Calendar.Clock

/-!
# Moments

A date with a time of day. With an offset it is a point in time; without one it is local.

* `Moment`: the date, the time and the offset.
* `Moment.instant`: its place on the time line, by which moments are compared.
* `Moment.text`: the form `2024-02-29T12:30:05+05:30`.
* `Daytime`: a time of day that may have an offset too.
-/

namespace AskTable.Calendar

structure Moment where
  date : Date
  clock : Clock
  offset : Option Offset
  deriving DecidableEq, Repr

structure Daytime where
  clock : Clock
  offset : Option Offset
  deriving DecidableEq, Repr

/-- An offset as billionths of a second; none counts as zero. -/
def offsetNanos (offset : Option Offset) : Int := (offset.map Offset.seconds).getD 0 * 1000000000

def offsetChars (offset : Option Offset) : List Char := (offset.map Offset.chars).getD []

namespace Moment

/-- The billionths of a second since the first day of year 1, less the offset. -/
def instant (m : Moment) : Int :=
  (m.date.dayNumber * 86400000000000 + m.clock.sinceMidnight : Nat) - offsetNanos m.offset

/-- The date and the time with a mark between them. -/
def textWith (mark : Char) (m : Moment) : String :=
  String.ofList (m.date.chars ++ mark :: m.clock.chars ++ offsetChars m.offset)

def text (m : Moment) : String := m.textWith 'T'

/-- The moment so many millionths of a second after the beginning of 1970. -/
def sinceEpoch (micros : Nat) : Moment :=
  let seconds := micros / 1000000
  let rest := seconds % 86400
  { date := Nat.repeat Date.next (seconds / 86400) ⟨1970, 1, 1⟩
    clock := ⟨rest / 3600, rest / 60 % 60, rest % 60, micros % 1000000 * 1000⟩
    offset := none }

/-- A date, alone or followed by a time. -/
def read? (s : String) : Option Moment := do
  let (date, rest) ← Date.read? s.toList
  match rest with
  | [] => some ⟨date, midnight, none⟩
  | _ :: rest =>
    let (clock, rest) ← Clock.read? rest
    let offset ← Offset.read? rest
    some ⟨date, clock, offset⟩

end Moment

namespace Daytime

/-- The billionths of a second since midnight, less the offset. -/
def instant (t : Daytime) : Int := (t.clock.sinceMidnight : Int) - offsetNanos t.offset

def text (t : Daytime) : String := String.ofList (t.clock.chars ++ offsetChars t.offset)

def read? (s : String) : Option Daytime := do
  let (clock, rest) ← Clock.read? s.toList
  let offset ← Offset.read? rest
  some ⟨clock, offset⟩

end Daytime

end AskTable.Calendar

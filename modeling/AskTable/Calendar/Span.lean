import AskTable.Calendar.Clock

/-!
# Spans of time

* `Span`: whole days, which may be negative, with seconds below a day and millionths of a second.
* `Span.text`: the form `1 day, 1:01:01.500000`; days are left out when there are none.
-/

namespace AskTable.Calendar

open AskTable.Text

structure Span where
  days : Int
  seconds : Nat
  micros : Nat
  deriving DecidableEq, Repr

def Span.text (s : Span) : String :=
  let days :=
    if s.days == 0 then ""
    else intText s.days ++ (if s.days.natAbs == 1 then " day, " else " days, ")
  let fraction := if s.micros == 0 then [] else '.' :: padded 6 s.micros
  days ++ String.ofList (digitsOf (s.seconds / 3600) ++ ':' :: padded 2 (s.seconds / 60 % 60) ++
    ':' :: padded 2 (s.seconds % 60) ++ fraction)

end AskTable.Calendar

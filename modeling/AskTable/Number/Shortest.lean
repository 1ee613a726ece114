import AskTable.Number.Binary64

/-!
# The fewest digits that read back

Among the decimals that read back as a given binary64 number, the one with the fewest digits, and
of those the nearest; a tie goes to the even last digit.

* `Interval`: the reals that round to a number, in quarters of 2^-1074.
* `Scientific`: a decimal, its digits times a power of ten.
* `shortest`: the decimal.
* `rounded`: the nearest decimal of a given number of significant digits.
-/

namespace AskTable.Number

/-- The reals that round to a number, in quarters of 2^-1074. The ends belong to it exactly if the
number's significand is even. -/
structure Interval where
  low : Nat
  high : Nat
  closed : Bool

/-- The interval of a positive number. Below a power of two the numbers lie twice as dense. -/
def Interval.ofUnits (units : Nat) : Interval :=
  let place := lastPlace units
  let gap := twoTo place
  let below := if place != 0 && units == twoTo (52 + place) then gap else 2 * gap
  ⟨4 * units - below, 4 * units + 2 * gap, units / gap % 2 == 0⟩

/-- Is the quotient `num / den`, in quarters of 2^-1074, in the interval? -/
def Interval.holds (i : Interval) (num den : Nat) : Bool :=
  if i.closed then i.low * den ≤ num && num ≤ i.high * den
  else i.low * den < num && num < i.high * den

/-- The decimal `digits * 10 ^ exponent`. -/
structure Scientific where
  digits : Nat
  exponent : Int
  deriving DecidableEq, Repr

/-- The power of ten of the leading digit of a positive number. The least positive number is above
10^-324. -/
def leadingPower (units : Nat) : Int :=
  ((Text.digitsOf (units * tenTo 324 / unitsOfOne)).length : Int) - 325

/-- A positive number as a quotient in steps of `10 ^ exponent`. -/
def inSteps (units : Nat) (exponent : Int) : Nat × Nat :=
  if 0 ≤ exponent then (units, unitsOfOne * tenTo exponent.toNat)
  else (units * tenTo (-exponent).toNat, unitsOfOne)

/-- Of the two multiples of `10 ^ exponent` around a number the nearer one that reads back. -/
def nearestBack? (i : Interval) (units : Nat) (exponent : Int) : Option Nat :=
  let (num, den) := inSteps units exponent
  let below := num / den
  let reads (d : Nat) : Bool :=
    if 0 ≤ exponent then i.holds (4 * d * den) 1
    else i.holds (4 * d * den) (tenTo (-exponent).toNat)
  let nearer := roundDiv num den
  if reads nearer then some nearer
  else [below, below + 1].find? reads

/-- Tries decimals of more and more digits; the last exponent always reads back. -/
def shortestFrom (i : Interval) (units : Nat) : (more : Nat) → (exponent : Int) → Scientific
  | 0, exponent => let (num, den) := inSteps units exponent; ⟨roundDiv num den, exponent⟩
  | more + 1, exponent =>
    match nearestBack? i units exponent with
    | some digits => ⟨digits, exponent⟩
    | none => shortestFrom i units more (exponent - 1)

/-- The decimal of fewest digits that reads back as the positive number. Seventeen digits always
do. -/
def shortest (units : Nat) : Scientific :=
  shortestFrom (Interval.ofUnits units) units 16 (leadingPower units)

/-- The decimal of `count` significant digits nearest to the positive number. -/
def rounded (count units : Nat) : Scientific :=
  let exponent := leadingPower units + 1 - count
  let (num, den) := inSteps units exponent
  ⟨roundDiv num den, exponent⟩

end AskTable.Number

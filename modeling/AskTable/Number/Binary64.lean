import AskTable.Number.Power
import AskTable.Text.Digit

/-!
# Binary floating point

The numbers of IEEE 754 binary64. Every finite one is a whole multiple of 2^-1074, so it is held as
that multiple; all arithmetic is exact on whole numbers and rounds once, to the nearest number, a
tie going to the even one.

* `roundDiv`: the whole number nearest to a quotient.
* `roundUnits`: the multiple of 2^-1074 that binary64 holds for a quotient of them.
* `Binary64.ofRatio?`, `ofInt?`, `ofScientific`: the nearest number to an exact value.
* `Binary64.add`, `scaleDown`, `lt`: sum, division by a count, order.
-/

namespace AskTable.Number

/-- The whole number nearest to `num / den`; a tie goes to the even one. -/
def roundDiv (num den : Nat) : Nat :=
  let q := num / den
  let r := num % den
  if 2 * r < den then q
  else if den < 2 * r then q + 1
  else q + q % 2

/-- How many binary places above the last unit the last place of a significand of 53 bits stands. -/
def lastPlace (units : Nat) : Nat := units.log2 - 52

/-- The multiple of 2^-1074 nearest to `num / den` of them among those with 53 significant bits. -/
def roundUnits (num den : Nat) : Nat :=
  let place := lastPlace (num / den)
  roundDiv num (den * twoTo place) * twoTo place

/-- One, as a multiple of 2^-1074. -/
def unitsOfOne : Nat := twoTo 1074

/-- The greatest finite number, as a multiple of 2^-1074. -/
def maxUnits : Nat := (twoTo 53 - 1) * twoTo 2045

/-- A binary64 number; a finite one is `units` times 2^-1074, and a zero keeps its sign. -/
inductive Binary64 where
  | nan
  | infinite (negative : Bool)
  | finite (negative : Bool) (units : Nat)
  deriving DecidableEq, Repr, Inhabited

namespace Binary64

def zero : Binary64 := .finite false 0

def negativeZero : Binary64 := .finite true 0

/-- A magnitude beyond the greatest finite number is infinite. -/
def ofUnits (negative : Bool) (units : Nat) : Binary64 :=
  if units ≤ maxUnits then .finite negative units else .infinite negative

/-- The number nearest to `num / den`. -/
def ofRatio (negative : Bool) (num den : Nat) : Binary64 :=
  ofUnits negative (roundUnits (num * unitsOfOne) den)

/-- The number nearest to an integer, unless it lies beyond the finite ones. -/
def ofInt? (n : Int) : Option Binary64 :=
  match ofRatio (n < 0) n.natAbs 1 with
  | .finite negative units => some (.finite negative units)
  | _ => none

/-- The number nearest to `digits * 10 ^ exponent`. The two bounds on the exponent spare the work
on values that are certainly infinite or zero. -/
def ofScientific (negative : Bool) (digits : Nat) (exponent : Int) : Binary64 :=
  let size : Int := (Text.digitsOf digits).length
  if digits == 0 || exponent + size < -330 then .finite negative 0
  else if 310 < exponent + size then .infinite negative
  else if exponent < 0 then ofRatio negative digits (tenTo (-exponent).toNat)
  else ofRatio negative (digits * tenTo exponent.toNat) 1

def isNaN : Binary64 → Bool
  | .nan => true
  | _ => false

def isFinite : Binary64 → Bool
  | .finite .. => true
  | _ => false

def isZero : Binary64 → Bool
  | .finite _ 0 => true
  | _ => false

def isNegative : Binary64 → Bool
  | .nan => false
  | .infinite negative => negative
  | .finite negative _ => negative

/-- A finite number as a signed multiple of 2^-1074. -/
def signedUnits (negative : Bool) (units : Nat) : Int := if negative then -units else units

/-- The sum, rounded. Opposite infinities have none, and two zeros are negative together only. -/
def add : Binary64 → Binary64 → Binary64
  | .nan, _ => .nan
  | _, .nan => .nan
  | .infinite a, .infinite b => if a == b then .infinite a else .nan
  | .infinite a, _ => .infinite a
  | _, .infinite b => .infinite b
  | .finite a m, .finite b n =>
    let sum := signedUnits a m + signedUnits b n
    if sum == 0 then .finite (a && b) 0 else ofUnits (sum < 0) (roundUnits sum.natAbs 1)

/-- The quotient by a positive count, rounded. -/
def scaleDown (x : Binary64) (count : Nat) : Binary64 :=
  match x with
  | .finite negative units => .finite negative (roundUnits units count)
  | _ => x

/-- Strictly less; a number that is not one is never in order. -/
def lt : Binary64 → Binary64 → Bool
  | .nan, _ => false
  | _, .nan => false
  | .infinite a, .infinite b => a && !b
  | .infinite a, _ => a
  | _, .infinite b => !b
  | .finite a m, .finite b n => signedUnits a m < signedUnits b n

/-- The integer part of a finite number that has no fraction. -/
def toInt? : Binary64 → Option Int
  | .finite negative units =>
    if units % unitsOfOne == 0 then some (signedUnits negative (units / unitsOfOne)) else none
  | _ => none

end Binary64

theorem le_roundDiv_add_one (num den : Nat) : num / den ≤ roundDiv num den := by
  simp only [roundDiv]
  split
  · omega
  · split <;> omega

end AskTable.Number

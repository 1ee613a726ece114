import AskTable.Number.Written

/-!
# Decimal numbers

Exact decimals keep their digits and their exponent, so that `1.50` and `1.5` are written
differently. Beside the finite ones there are infinities and two kinds of a number that is none:
quiet ones, and signalling ones, which cannot be converted.

* `Decimal.text`: positional while the exponent is not positive and at most six zeros follow the
  point; scientific beyond.
* `Decimal.toBinary64?`: the nearest binary number, `none` for a signalling one.
* `Decimal.quantize`: the nearest decimal with a number of places.
-/

namespace AskTable.Number

inductive Decimal where
  | finite (negative : Bool) (digits : Nat) (exponent : Int)
  | infinite (negative : Bool)
  | nan (negative signalling : Bool) (payload : Nat)
  deriving DecidableEq, Repr

namespace Decimal

/-- The text of digits times a power of ten. -/
def finiteText (digits : Nat) (exponent : Int) : List Char :=
  let shown := Text.digitsOf digits
  let left : Int := exponent + shown.length
  if exponent ≤ 0 && -6 < left then
    if left ≤ 0 then '0' :: '.' :: List.replicate (-left).toNat '0' ++ shown
    else shown.take left.toNat ++ fraction (shown.drop left.toNat)
  else
    let power := left - 1
    let sign := if power < 0 then '-' else '+'
    shown.take 1 ++ fraction (shown.drop 1) ++ 'E' :: sign :: Text.digitsOf power.natAbs

def text : Decimal → String
  | .finite negative digits exponent =>
    String.ofList (signText negative ++ finiteText digits exponent)
  | .infinite negative => String.ofList (signText negative ++ "Infinity".toList)
  | .nan negative signalling payload =>
    String.ofList (signText negative ++ (if signalling then "sNaN" else "NaN").toList ++
      (if payload == 0 then [] else Text.digitsOf payload))

/-- The nearest binary number; a signalling one has none. -/
def toBinary64? : Decimal → Option Binary64
  | .finite negative digits exponent => some (.ofScientific negative digits exponent)
  | .infinite negative => some (.infinite negative)
  | .nan _ false _ => some .nan
  | .nan _ true _ => none

/-- The nearest decimal with `places` digits after the point; a tie goes to the even one. -/
def quantize (places : Nat) : Decimal → Decimal
  | .finite negative digits exponent =>
    let shift := exponent + places
    if 0 ≤ shift then .finite negative (digits * tenTo shift.toNat) (-places)
    else .finite negative (roundDiv digits (tenTo (-shift).toNat)) (-places)
  | d => d

end Decimal

end AskTable.Number

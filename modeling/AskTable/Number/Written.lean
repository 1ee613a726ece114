import AskTable.Number.Shortest

/-!
# Numbers as text

* `floatText`: the shortest text that reads back; positional from 10^-4 to below 10^16, with a
  point always, and an exponent of at least two digits beyond.
* `compactText`: a number of significant digits, without trailing zeros.
* `fixedText`: a number of decimal places.
-/

namespace AskTable.Number

/-- Digits without the zeros at their end. -/
def dropEndZeros (digits : List Char) : List Char := (digits.reverse.dropWhile (· == '0')).reverse

/-- A point and the digits after it; nothing when there are none. -/
def fraction (digits : List Char) : List Char := if digits.isEmpty then [] else '.' :: digits

/-- A sign and at least two digits. -/
def exponentText (power : Int) : List Char :=
  let digits := Text.digitsOf power.natAbs
  (if power < 0 then '-' else '+') :: (if digits.length < 2 then '0' :: digits else digits)

/-- Digits that start at the place of `10 ^ power`, with an exponent. -/
def withExponent (digits : List Char) (power : Int) : List Char :=
  digits.take 1 ++ fraction (digits.drop 1) ++ 'e' :: exponentText power

/-- The digits before and after the point, when the first stands at the place of `10 ^ power`. -/
def aroundPoint (digits : List Char) (power : Int) : List Char × List Char :=
  if power < 0 then (['0'], List.replicate ((-power).toNat - 1) '0' ++ digits)
  else
    let whole := power.toNat + 1
    (digits.take whole ++ List.replicate (whole - digits.length) '0', digits.drop whole)

/-- The significant digits of a decimal and the power of ten of the first. -/
def Scientific.significant (s : Scientific) : List Char × Int :=
  let digits := Text.digitsOf s.digits
  (dropEndZeros digits, s.exponent + digits.length - 1)

def signText (negative : Bool) : List Char := if negative then ['-'] else []

/-- The shortest text of a positive number. -/
def shortestText (units : Nat) : List Char :=
  let (digits, power) := (shortest units).significant
  if -4 ≤ power && power < 16 then
    let (whole, rest) := aroundPoint digits power
    whole ++ '.' :: (if rest.isEmpty then ['0'] else rest)
  else withExponent digits power

/-- A number with `write` for its positive magnitude and `zero` for a zero. -/
def writtenWith (zero : String) (write : Nat → List Char) : Binary64 → String
  | .nan => "nan"
  | .infinite negative => String.ofList (signText negative ++ "inf".toList)
  | .finite negative 0 => String.ofList (signText negative ++ zero.toList)
  | .finite negative units => String.ofList (signText negative ++ write units)

/-- The shortest text that reads back. -/
def floatText : Binary64 → String := writtenWith "0.0" shortestText

/-- At most `count` significant digits, positional from 10^-4 to below `10 ^ count`. -/
def compactText (count : Nat) : Binary64 → String :=
  writtenWith "0" fun units =>
    let (digits, power) := (rounded count units).significant
    if -4 ≤ power && power < count then
      let (whole, rest) := aroundPoint digits power
      whole ++ fraction rest
    else withExponent digits power

/-- Exactly `places` digits after the point. -/
def fixedText (places : Nat) (x : Binary64) : String :=
  let write (units : Nat) : List Char :=
    let n := roundDiv (units * tenTo places) unitsOfOne
    Text.digitsOf (n / tenTo places) ++
      fraction ((Text.digitsOf (n % tenTo places + tenTo places)).drop 1)
  match x with
  | .finite negative units => String.ofList (signText negative ++ write units)
  | _ => writtenWith "" write x

end AskTable.Number

import AskTable.Number.Binary64
import AskTable.Text.Blank
import AskTable.Text.Quoted

/-!
# Numerals

Numbers as people type them, in decimal digits of any script.

* `Numeral`: an optional sign, digits with an optional point, an optional exponent.
* `Numeral.read?`: the longest numeral at the front of a text, with what follows it.
* `Numeral.text`: the text of a numeral; reading loses nothing.
* `Numeral.value`: the nearest binary number.
* `readWhole`: a text that is a whole number and nothing else.
-/

namespace AskTable.Number

open AskTable.Text

/-- The exponent of a numeral: its letter, an optional sign, its digits. -/
structure ExponentPart where
  letter : Char
  sign : Option Char
  digits : List Char
  deriving DecidableEq, Repr

/-- A numeral as written. A point may stand before, among or after the digits. -/
structure Numeral where
  sign : Option Char
  whole : List Char
  point : Bool
  fraction : List Char
  exponent : Option ExponentPart
  deriving DecidableEq, Repr

def ExponentPart.text (e : ExponentPart) : List Char := e.letter :: e.sign.toList ++ e.digits

def Numeral.text (n : Numeral) : List Char :=
  n.sign.toList ++ n.whole ++ (if n.point then '.' :: n.fraction else []) ++
    (n.exponent.map ExponentPart.text).getD []

/-- The sign at the front of a text, if there is one. -/
def spanSign : List Char → Option Char × List Char
  | c :: s => if c == '+' || c == '-' then (some c, s) else (none, c :: s)
  | [] => (none, [])

/-- The exponent at the front of a text. A letter without digits after it is none. -/
def readExponent? : List Char → Option (ExponentPart × List Char)
  | c :: s =>
    if c == 'e' || c == 'E' then
      let (sign, unsigned) := spanSign s
      match spanDigits unsigned with
      | ([], _) => none
      | (digits, rest) => some (⟨c, sign, digits⟩, rest)
    else none
  | [] => none

/-- The digits and point at the front of a text: at least one digit. -/
def readMantissa? (s : List Char) : Option ((List Char × Bool × List Char) × List Char) :=
  match spanDigits s with
  | ([], '.' :: rest) =>
    match spanDigits rest with
    | ([], _) => none
    | (digits, rest) => some (([], true, digits), rest)
  | ([], _) => none
  | (whole, '.' :: rest) =>
    let (digits, rest) := spanDigits rest
    some ((whole, true, digits), rest)
  | (whole, rest) => some ((whole, false, []), rest)

/-- The longest numeral at the front of a text, and what follows it. -/
def Numeral.read? (s : List Char) : Option (Numeral × List Char) :=
  let (sign, unsigned) := spanSign s
  match readMantissa? unsigned with
  | none => none
  | some ((whole, point, fraction), rest) =>
    match readExponent? rest with
    | none => some (⟨sign, whole, point, fraction, none⟩, rest)
    | some (exponent, rest) => some (⟨sign, whole, point, fraction, some exponent⟩, rest)

def signed (sign : Option Char) (n : Nat) : Int := if sign == some '-' then -n else n

/-- The power of ten that an exponent denotes. -/
def ExponentPart.power (e : ExponentPart) : Int := signed e.sign (natOf e.digits)

/-- The binary number nearest to the one that a numeral denotes. -/
def Numeral.value (n : Numeral) : Binary64 :=
  .ofScientific (n.sign == some '-') (natOf (n.whole ++ n.fraction))
    ((n.exponent.map ExponentPart.power).getD 0 - n.fraction.length)

/-- Why a text is no whole number. -/
inductive WholeFault where
  | malformed (text : String)
  /-- More digits than are read. -/
  | tooLong (digits : Nat)
  deriving DecidableEq, Repr

/-- The most digits, leading zeros included, that a whole number is read with. -/
def maxDigits : Nat := 4300

/-- The blanks that may surround a whole number: all but the separators U+001C to U+001F. -/
def isMargin (c : Char) : Bool := isBlank c && !(0x1C ≤ c.toNat && c.toNat ≤ 0x1F)

/-- The digits of a run in which single underscores separate neighbours. -/
def groupedDigits? : List Char → Option (List Char)
  | [] => none
  | [c] => if isDigit c then some [c] else none
  | c :: '_' :: s => if isDigit c then (groupedDigits? s).map (c :: ·) else none
  | c :: s => if isDigit c then (groupedDigits? s).map (c :: ·) else none

/-- A whole number in digits of any script, signed or not, with blanks around it. The length of the
number is judged before what follows it. -/
def readWhole (s : String) : Except WholeFault Int :=
  let (sign, unsigned) := spanSign (s.toList.dropWhile isMargin)
  let inNumber (c : Char) : Bool := isDigit c || c == '_'
  match groupedDigits? (unsigned.takeWhile inNumber) with
  | none => .error (.malformed s)
  | some digits =>
    if maxDigits < digits.length then .error (.tooLong digits.length)
    else if (unsigned.dropWhile inNumber).all isMargin then .ok (signed sign (natOf digits))
    else .error (.malformed s)

/-- How much of a malformed text is shown. -/
def shownLiteral : Nat := 200

def WholeFault.message : WholeFault → String
  | .malformed text => "invalid literal for int() with base 10: " ++
      String.ofList ((quoted text).toList.take shownLiteral)
  | .tooLong digits =>
    s!"Exceeds the limit ({maxDigits} digits) for integer string conversion: value has {digits} digits; use sys.set_int_max_str_digits() to increase the limit"

theorem spanSign_append (s : List Char) : (spanSign s).1.toList ++ (spanSign s).2 = s := by
  cases s with
  | nil => rfl
  | cons c s => simp only [spanSign]; split <;> rfl

theorem spanDigits_append (s : List Char) : (spanDigits s).1 ++ (spanDigits s).2 = s := by
  simp [spanDigits]

end AskTable.Number

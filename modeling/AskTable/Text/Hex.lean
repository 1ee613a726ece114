/-!
# Hexadecimal text

* `hexDigit`, `hexWidth`: the small hexadecimal digits of a number, padded to a width.
* `hexOf`: two digits for each byte.
-/

namespace AskTable.Text

/-- The small hexadecimal digit of a value below 16. -/
def hexDigit (n : Nat) : Char := if n < 10 then Char.ofNat (0x30 + n) else Char.ofNat (0x57 + n)

/-- The last `width` hexadecimal digits of a number. -/
def hexWidth : (width : Nat) → Nat → List Char
  | 0, _ => []
  | width + 1, n => hexWidth width (n / 16) ++ [hexDigit (n % 16)]

/-- Two hexadecimal digits for each byte. -/
def hexOf (bytes : List UInt8) : String := String.ofList (bytes.flatMap fun b => hexWidth 2 b.toNat)

end AskTable.Text

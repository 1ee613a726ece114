/-!
# Blanks and trimming

A blank is a character that separates words without being seen: the space, the control characters
from tab to carriage return and from U+001C to U+001F, and the wider Unicode spaces.

* `isBlank`: the class.
* `trim`, `trimmed`: a text without the blanks at its two ends.
* `trimStart_eq_nil_iff`: trimming the front leaves nothing exactly of an all-blank text.
-/

namespace AskTable.Text

/-- The blanks, as closed ranges of code points. -/
def blankRanges : List (Nat × Nat) := [
  (0x09, 0x0D), (0x1C, 0x20), (0x85, 0x85), (0xA0, 0xA0), (0x1680, 0x1680), (0x2000, 0x200A),
  (0x2028, 0x2029), (0x202F, 0x202F), (0x205F, 0x205F), (0x3000, 0x3000)]

/-- Does one of the closed ranges hold the character? -/
def inRanges (ranges : List (Nat × Nat)) (c : Char) : Bool :=
  ranges.any fun r => r.1 ≤ c.toNat && c.toNat ≤ r.2

def isBlank (c : Char) : Bool := inRanges blankRanges c

/-- The text from its first character that is no blank. -/
def trimStart (s : List Char) : List Char := s.dropWhile isBlank

/-- The text up to its last character that is no blank. -/
def trimEnd (s : List Char) : List Char := (trimStart s.reverse).reverse

/-- The text without the blanks at its two ends. -/
def trim (s : List Char) : List Char := trimEnd (trimStart s)

/-- `trim` on strings. -/
def trimmed (s : String) : String := String.ofList (trim s.toList)

/-- Does the text consist of blanks alone? -/
def allBlank (s : String) : Bool := s.toList.all isBlank

theorem trimStart_eq_nil_iff (s : List Char) : trimStart s = [] ↔ ∀ c ∈ s, isBlank c = true := by
  induction s with
  | nil => simp [trimStart]
  | cons c s ih =>
    simp only [trimStart] at ih
    cases h : isBlank c
    · simp [trimStart, h]
    · simp [trimStart, h, ih]

theorem trimStart_cons_of_not {c : Char} (h : isBlank c = false) (s : List Char) :
    trimStart (c :: s) = c :: s := by
  simp [trimStart, h]

theorem trimStart_trimStart (s : List Char) : trimStart (trimStart s) = trimStart s := by
  induction s with
  | nil => rfl
  | cons c s ih =>
    cases h : isBlank c
    · simp [trimStart, h]
    · simpa [trimStart, h] using ih

end AskTable.Text

import AskTable.Text.Blank
import AskTable.Text.CaseTable

/-!
# Upper and lower case

Full Unicode case forms: one character may become several, and a capital sigma becomes a final
sigma at the end of a word.

* `upper`, `lower`: the case forms of a text.
* `uppercase`, `lowercase`: the same on strings.
-/

namespace AskTable.Text

/-- The partner of code point `n` in a run. -/
def CaseRun.partner? (r : CaseRun) (n : Nat) : Option Char :=
  if r.first ≤ n && n ≤ r.last && (n - r.first) % r.step == 0 then
    some (Char.ofNat (Int.toNat (n + r.shift)))
  else none

/-- The form of a character by a table of expansions and one of runs; itself when neither has it. -/
def caseForm (runs : List CaseRun) (expansions : List (Nat × List Nat)) (c : Char) : List Char :=
  match expansions.find? (·.1 == c.toNat) with
  | some (_, form) => form.map Char.ofNat
  | none => [(runs.findSome? (·.partner? c.toNat)).getD c]

def upperChar (c : Char) : List Char :=
  if c.toNat < 128 then [c.toUpper] else caseForm upperRuns upperExpansions c

/-- The upper-case form of a text. -/
def upper (s : List Char) : List Char := s.flatMap upperChar

def lowerChar (c : Char) : List Char :=
  if c.toNat < 128 then [c.toLower] else caseForm lowerRuns lowerExpansions c

/-- Is the nearest neighbour that counts a cased letter? `side` starts at the nearest one. -/
def casedBeside (side : List Char) : Bool :=
  (side.dropWhile (inRanges transparentRanges)).head?.any (inRanges casedRanges)

/-- A capital sigma is final when a cased letter stands before it and none after it. -/
def lowerAfter (before : List Char) : List Char → List Char
  | [] => []
  | 'Σ' :: s =>
    (if casedBeside before && !casedBeside s then 'ς' else 'σ') :: lowerAfter ('Σ' :: before) s
  | c :: s => lowerChar c ++ lowerAfter (c :: before) s

/-- The lower-case form of a text. -/
def lower (s : List Char) : List Char := lowerAfter [] s

def uppercase (s : String) : String := String.ofList (upper s.toList)

def lowercase (s : String) : String := String.ofList (lower s.toList)

end AskTable.Text

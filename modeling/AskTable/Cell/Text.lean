import AskTable.Cell.Basic
import AskTable.Text.Quoted

/-!
# Cells as text

Every cell has two texts: a plain one, and a literal that tells the kinds of values apart, which is
also the text of what a list, tuple or dictionary holds.

* `Cell.literal`, `Cell.plainText`: the two texts; they agree on numbers, truth values and
  containers.
-/

namespace AskTable

open AskTable.Calendar AskTable.Number AskTable.Text

/-- A number without the `.0` of a whole one. -/
def bareText (x : Binary64) : String :=
  let text := (floatText x).toList
  String.ofList (if text.reverse.take 2 == ['0', '.'] then text.dropLast.dropLast else text)

/-- A complex number: its imaginary part alone when the real part is a positive zero. -/
def complexText (re im : Binary64) : String :=
  if re == .zero then bareText im ++ "j"
  else
    let sign := if im.isNegative then "" else "+"
    "(" ++ bareText re ++ sign ++ bareText im ++ "j)"

/-- Groups of 8, 4, 4, 4 and 12 hexadecimal digits. -/
def uuidText (n : Nat) : String :=
  let digits := hexWidth 32 n
  let group (first count : Nat) : List Char := (digits.drop first).take count
  String.ofList (group 0 8 ++ '-' :: group 8 4 ++ '-' :: group 12 4 ++ '-' :: group 16 4 ++
    '-' :: group 20 12)

def boolText (b : Bool) : String := if b then "True" else "False"

/-- The arguments of a literal between commas. -/
def listed (pieces : List String) : String := String.intercalate ", " pieces

/-- A span as a literal names its parts that are not zero. -/
def spanLiteral (s : Span) : String :=
  let part (name : String) (n : Int) : List String :=
    if n == 0 then [] else [name ++ "=" ++ intText n]
  let parts := part "days" s.days ++ part "seconds" s.seconds ++ part "microseconds" s.micros
  "datetime.timedelta(" ++ (if parts.isEmpty then "0" else listed parts) ++ ")"

/-- An offset as a literal. -/
def offsetLiteral (o : Offset) : String :=
  if o.seconds == 0 then "datetime.timezone.utc"
  else "datetime.timezone(" ++
    spanLiteral ⟨o.seconds / 86400, (o.seconds % 86400).toNat, 0⟩ ++ ")"

/-- The parts of a time of day: seconds and millionths only as far as they are needed. -/
def clockParts (c : Clock) (offset : Option Offset) : List String :=
  let micros := c.nanos / 1000
  let fine := if micros != 0 then [c.second, micros] else if c.second != 0 then [c.second] else []
  ([c.hour, c.minute] ++ fine).map natText ++
    (offset.map fun o => "tzinfo=" ++ offsetLiteral o).toList

def dateParts (d : Date) : List String := [d.year, d.month, d.day].map natText

namespace Cell

/-- The text of a value without parts; a literal where the value stands among others. -/
def scalarLiteral : Cell → String
  | .null => "None"
  | .bool b => boolText b
  | .int n => intText n
  | .float x => floatText x
  | .text s => quoted s
  | .decimal d => "Decimal('" ++ d.text ++ "')"
  | .complex re im => complexText re im
  | .date d => "datetime.date(" ++ listed (dateParts d) ++ ")"
  | .moment m =>
    "datetime.datetime(" ++ listed (dateParts m.date ++ clockParts m.clock m.offset) ++ ")"
  | .time t => "datetime.time(" ++ listed (clockParts t.clock t.offset) ++ ")"
  | .span s => spanLiteral s
  | .stamp none => "NaT"
  | .stamp (some m) => "Timestamp('" ++ m.textWith ' ' ++ "')"
  | .bytes b => quotedBytes b
  | .uuid n => "UUID('" ++ uuidText n ++ "')"
  | .wordInt n => "np.int64(" ++ intText n ++ ")"
  | .wordFloat x => "np.float64(" ++ floatText x ++ ")"
  | .wordBool b => "np." ++ boolText b
  | _ => ""

mutual

/-- The literal of a value. -/
def literal : Cell → String
  | .boxed c => "<pyarrow." ++ c.boxName ++ ": " ++ c.literal ++ ">"
  | .list cells => "[" ++ listed (literals cells) ++ "]"
  | .tuple [c] => "(" ++ c.literal ++ ",)"
  | .tuple cells => "(" ++ listed (literals cells) ++ ")"
  | .dict entries => "\x7b" ++ listed (entryLiterals entries) ++ "\x7d"
  | .frame f => f.text
  | c => c.scalarLiteral

def literals : List Cell → List String
  | [] => []
  | c :: cells => c.literal :: literals cells

def entryLiterals : List (Cell × Cell) → List String
  | [] => []
  | entry :: entries => entryLiteral entry :: entryLiterals entries

def entryLiteral : Cell × Cell → String
  | (key, value) => key.literal ++ ": " ++ value.literal

end

/-- The plain text of a value. -/
def plainText : Cell → String
  | .text s => s
  | .decimal d => d.text
  | .date d => d.text
  | .moment m => m.textWith ' '
  | .time t => t.text
  | .span s => s.text
  | .stamp (some m) => m.textWith ' '
  | .uuid n => uuidText n
  | .wordInt n => intText n
  | .wordFloat x => floatText x
  | .wordBool b => boolText b
  | .boxed c => c.plainText
  | c => c.literal

end Cell

end AskTable

import AskTable.Calendar.Moment
import AskTable.Calendar.Span
import AskTable.Number.Decimal

/-!
# Cells

The values a table holds. Numbers come in several kinds, among them scalars of fixed width; a boxed
cell is a scalar of a column store that is unpacked before it is written; a frame is a whole table
in one cell.

* `Framed`: a whole table in one cell, with the text that is written for it.
* `Cell`: the values.
* `Cell.kindName`: the name of a value's kind, as messages give it.
* `Cell.truthy`: does a value count as given? Nothing, zero and emptiness do not.
-/

namespace AskTable

open AskTable.Calendar AskTable.Number

/-- A table by records, and the text that is written for it. How this text is laid out is up to the
library that makes frames. -/
structure Framed (α : Type) where
  records : List (List (α × α))
  text : String
  deriving Repr, Inhabited

inductive Cell where
  | null
  | bool (b : Bool)
  | int (n : Int)
  | float (x : Binary64)
  | text (s : String)
  | decimal (d : Decimal)
  | complex (re im : Binary64)
  | date (d : Date)
  | moment (m : Moment)
  | time (t : Daytime)
  | span (s : Span)
  /-- A moment of a time column, missing or given. -/
  | stamp (m : Option Moment)
  | bytes (b : List UInt8)
  | uuid (n : Nat)
  | wordInt (n : Int)
  | wordFloat (x : Binary64)
  | wordBool (b : Bool)
  | boxed (c : Cell)
  | list (cells : List Cell)
  | tuple (cells : List Cell)
  | dict (entries : List (Cell × Cell))
  | frame (f : Framed Cell)
  deriving Repr, Inhabited

namespace Cell

/-- The name of the boxed form of a value. -/
def boxName : Cell → String
  | .null => "NullScalar"
  | .bool _ | .wordBool _ => "BooleanScalar"
  | .int _ | .wordInt _ => "Int64Scalar"
  | .float _ | .wordFloat _ => "DoubleScalar"
  | .text _ => "StringScalar"
  | .decimal _ => "Decimal128Scalar"
  | .date _ => "Date32Scalar"
  | .moment _ | .stamp _ => "TimestampScalar"
  | .time _ => "Time64Scalar"
  | .span _ => "DurationScalar"
  | .bytes _ => "BinaryScalar"
  | .list _ | .tuple _ => "ListScalar"
  | .dict _ => "StructScalar"
  | _ => "Scalar"

/-- The name of a value's kind. -/
def kindName : Cell → String
  | .null => "NoneType"
  | .bool _ => "bool"
  | .int _ => "int"
  | .float _ => "float"
  | .text _ => "str"
  | .decimal _ => "decimal.Decimal"
  | .complex .. => "complex"
  | .date _ => "datetime.date"
  | .moment _ => "datetime.datetime"
  | .time _ => "datetime.time"
  | .span _ => "datetime.timedelta"
  | .stamp (some _) => "Timestamp"
  | .stamp none => "NaTType"
  | .bytes _ => "bytes"
  | .uuid _ => "UUID"
  | .wordInt _ => "numpy.int64"
  | .wordFloat _ => "numpy.float64"
  | .wordBool _ => "numpy.bool"
  | .boxed c => "pyarrow.lib." ++ c.boxName
  | .list _ => "list"
  | .tuple _ => "tuple"
  | .dict _ => "dict"
  | .frame _ => "DataFrame"

/-- Does the value count as given? -/
def truthy : Cell → Bool
  | .null => false
  | .bool b | .wordBool b => b
  | .int n | .wordInt n => n != 0
  | .float x | .wordFloat x => !x.isZero
  | .text s => !s.isEmpty
  | .decimal (.finite _ digits _) => digits != 0
  | .complex re im => !(re.isZero && im.isZero)
  | .span s => s != ⟨0, 0, 0⟩
  | .bytes b => !b.isEmpty
  | .list cells | .tuple cells => !cells.isEmpty
  | .dict entries => !entries.isEmpty
  | _ => true

def isText : Cell → Bool
  | .text _ => true
  | _ => false

def isNull : Cell → Bool
  | .null => true
  | _ => false

/-- The text in a cell that holds one. -/
def text? : Cell → Option String
  | .text s => some s
  | _ => none

end Cell

end AskTable

import AskTable.Cell.Text
import AskTable.Fault

/-!
# Telling cells apart

Two cells are the same when their keys are: numbers compare by what they denote, whatever their
kind, moments by their place on the time line, and everything else by kind and content. A list or
dictionary has no key of its own.

* `Quantity`: a number in lowest terms, as an integer without factors 2 and 5 times powers of both.
* `Cell.key`: the key, or why there is none.
* `Cell.kin`: a cell's key when nested values count by their literal.
* `distinctCount`: how many cells differ; a number that is not one differs from every other.
-/

namespace AskTable

open AskTable.Calendar AskTable.Number AskTable.Text

/-- A number other than zero is `sign * odd * 2 ^ twos * 5 ^ fives` with `odd` free of both
factors. -/
structure Quantity where
  negative : Bool
  odd : Nat
  twos : Int
  fives : Int
  deriving DecidableEq, Repr

/-- Divides a factor out as often as it divides; `more` bounds how often that can be. -/
def divideOut (factor : Nat) : (more : Nat) → Nat → Nat × Nat
  | 0, n => (n, 0)
  | more + 1, n =>
    if n % factor == 0 then
      let (rest, count) := divideOut factor more (n / factor)
      (rest, count + 1)
    else (n, 0)

/-- The quantity of `n * 2 ^ twos * 5 ^ fives`. -/
def Quantity.of (negative : Bool) (n : Nat) (twos fives : Int) : Quantity :=
  if n == 0 then ⟨false, 0, 0, 0⟩
  else
    let (n, a) := divideOut 2 (n.log2 + 1) n
    let (n, b) := divideOut 5 (n.log2 + 1) n
    ⟨negative, n, twos + a, fives + b⟩

/-- What a key is made of. -/
inductive Atom where
  | null
  | number (q : Quantity)
  | infinite (negative : Bool)
  | nan
  | imaginary
  | text (s : String)
  | date (d : Date)
  /-- A moment or time of day, with an offset or without, at its place on the time line. -/
  | instant (anchored : Bool) (nanos : Int)
  | daytime (anchored : Bool) (nanos : Int)
  | noMoment
  | span (s : Span)
  | bytes (b : List UInt8)
  | uuid (n : Nat)
  | boxed (literal : String)
  | tuple (size : Nat)
  deriving DecidableEq, Repr

abbrev Key := List Atom

def integerAtom (n : Int) : Atom := .number (.of (n < 0) n.natAbs 0 0)

def binaryAtom : Binary64 → Atom
  | .nan => .nan
  | .infinite negative => .infinite negative
  | .finite negative units => .number (.of negative units (-1074) 0)

def decimalAtom? : Decimal → Option Atom
  | .finite negative digits exponent => some (.number (.of negative digits exponent exponent))
  | .infinite negative => some (.infinite negative)
  | .nan _ false _ => some .nan
  | .nan _ true _ => none

namespace Cell

mutual

/-- The key of a value. -/
def key : Cell → Except Fault Key
  | .null => .ok [.null]
  | .bool b | .wordBool b => .ok [integerAtom b.toNat]
  | .int n | .wordInt n => .ok [integerAtom n]
  | .float x | .wordFloat x => .ok [binaryAtom x]
  | .text s => .ok [.text s]
  | .decimal d =>
    match decimalAtom? d with
    | some atom => .ok [atom]
    | none => .error .signallingKey
  | .complex re im =>
    .ok (if im.isZero then [binaryAtom re] else [.imaginary, binaryAtom re, binaryAtom im])
  | .date d => .ok [.date d]
  | .moment m | .stamp (some m) => .ok [.instant m.offset.isSome m.instant]
  | .stamp none => .ok [.noMoment]
  | .time t => .ok [.daytime t.offset.isSome t.instant]
  | .span s => .ok [.span s]
  | .bytes b => .ok [.bytes b]
  | .uuid n => .ok [.uuid n]
  | .boxed (.float .nan) => .ok [.nan]
  | .boxed c => .ok [.boxed (literal (.boxed c))]
  | .tuple cells =>
    match keys cells with
    | .ok atoms => .ok (.tuple cells.length :: atoms)
    | .error fault => .error fault
  | .list _ => .error (.noKey "list")
  | .dict _ => .error (.noKey "dict")
  | .frame _ => .error (.noKey "DataFrame")

/-- The keys of several values after one another. -/
def keys : List Cell → Except Fault Key
  | [] => .ok []
  | c :: cells =>
    match key c with
    | .error fault => .error fault
    | .ok atoms =>
      match keys cells with
      | .ok rest => .ok (atoms ++ rest)
      | .error fault => .error fault

end

/-- The key by which a value is counted: nested values count as the text of their literal. -/
def kin : Cell → Except Fault Key
  | .list cells => .ok [.text (literal (.list cells))]
  | .dict entries => .ok [.text (literal (.dict entries))]
  | .frame f => .ok [.text (literal (.frame f))]
  | c => key c

end Cell

/-- A number that is not one differs from everything, itself read again included. -/
def isUnique (k : Key) : Bool := k.contains .nan

/-- How many keys differ. -/
def countDistinct (ks : List Key) : Nat :=
  ks.countP isUnique + (ks.filter fun k => !isUnique k).eraseDups.length

/-- How many of the cells differ (`_distinct`). -/
def distinctCount (cells : List Cell) : Except Fault Nat :=
  return countDistinct (← cells.mapM Cell.kin)

end AskTable

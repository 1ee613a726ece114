import AskTable.File.Disk

/-!
# Tables from column files

A column file keeps the kind of each column, so cells are given back as they are. Two names that
differ in letter case alone are told apart by a number.

* `apartNames`: the names of the columns.
* `columnFileRows`: the rows of a column file.
-/

namespace AskTable.File

open AskTable.Number

/-- How often each name, in small letters, was given. -/
abbrev NameCounts := List (String × Nat)

def NameCounts.of (counts : NameCounts) (name : String) : Nat :=
  (Entries.find? id (Text.lowercase name) counts).getD 0

def NameCounts.add (counts : NameCounts) (name : String) (n : Nat) : NameCounts :=
  Entries.put id (Text.lowercase name) n counts

/-- A name with a number that makes it new. -/
def withNumber (name : String) (n : Nat) : String := s!"{name}_{n}"

/-- The least number from `first` on with which the name is new. One of the numbers up to the count
of names is. -/
def apartNumber (counts : NameCounts) (name : String) (first : Nat) : Nat :=
  ((List.range (counts.length + 1)).find? fun i =>
    counts.of (withNumber name (first + i)) == 0).getD 0 + first

/-- The names of the columns. -/
def apartNames (counts : NameCounts) : List String → List String
  | [] => []
  | name :: names =>
    match counts.of name with
    | 0 => name :: apartNames (counts.add name 1) names
    | first =>
      let number := apartNumber counts name first
      let fresh := withNumber name number
      fresh :: apartNames ((counts.add fresh 1).add name (number + 1)) names

/-- The value of a field of a record; nothing when the record lacks it. -/
def fieldOf (entries : List (Cell × Cell)) (name : String) : Cell :=
  ((entries.find? fun e => e.1.text? == some name).map (·.2)).getD .null

/-- A cell as a column of a kind holds it. -/
def ColumnKind.hold : ColumnKind → Cell → Cell
  | .real, .int n => .float ((Binary64.ofInt? n).getD .nan)
  | .decimal, .decimal d => .decimal (d.quantize 2)
  | .decimal, .int n => .decimal (Decimal.quantize 2 (.finite (n < 0) n.natAbs 0))
  | .struct, .dict entries => .dict [(.text "x", fieldOf entries "x"), (.text "y", fieldOf entries "y")]
  | _, c => c

/-- The rows of a column file (`DuckDBExecutor.read_parquet_rows`). -/
def columnFileRows (columns : List FileColumn) : List Row :=
  let names := (apartNames [] (columns.map (·.name))).map Label.ofText
  let height := (columns.head?.map fun c => c.cells.length).getD 0
  (List.range height).map fun i =>
    .ofList (names.zip (columns.map fun c => c.kind.hold (c.cells[i]?.getD .null)))

end AskTable.File

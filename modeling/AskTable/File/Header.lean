import AskTable.Table.Row

/-!
# Column names from a header

A header may leave names out or repeat them. A column without a name is called after its place, and
a repeated name gets a number that no other column has; given names are settled first. These rules
are those of the package that `read_rows` leaves the text to, and they are taken as given.

* `placeName`: the name of a column without one.
* `distinctNames`: the names of all columns.
-/

namespace AskTable.File

/-- The name of a column without one, by its place. -/
def placeName (place : Nat) : Label := .ofText s!"Unnamed: {place}"

/-- A name with a number after it. -/
def numbered (name : Label) (n : Nat) : Label := .ofText s!"{name.text}.{n}"

/-- Names under way: the name of each column, and the next number for each name that was settled. -/
structure Naming where
  names : List Label
  next : List (Label × Nat)

/-- The next number of a name; zero while no column has it. -/
def Naming.nextOf (n : Naming) (name : Label) : Nat :=
  (Entries.find? Label.key name.key n.next).getD 0

def Naming.count (n : Naming) (name : Label) (next : Nat) : Naming :=
  { n with next := Entries.put Label.key name next n.next }

/-- Do the columns have this name? -/
def Naming.has (n : Naming) (name : Label) : Bool := n.names.any fun other => other.same name

/-- The least number from `first` on with which the name is new. One of the numbers up to the count
of columns is. -/
def Naming.freeNumber (n : Naming) (name : Label) (first : Nat) : Nat :=
  ((List.range (n.names.length + 1)).find? fun i => !n.has (numbered name (first + i))).getD 0 + first

/-- Settles the name of one column. -/
def Naming.settle (n : Naming) (place : Nat) : Naming :=
  match n.names[place]? with
  | none => n
  | some name =>
    match n.nextOf name with
    | 0 => n.count name 1
    | first =>
      let number := n.freeNumber name first
      let fresh := numbered name number
      ({ n with names := n.names.set place fresh }.count name (number + 1)).count fresh 1

/-- The names of all columns; `none` stands for a column without one. -/
def distinctNames (header : List (Option Label)) : List Label :=
  let places := List.range header.length
  let names := header.zipWith (fun name place => name.getD (placeName place)) places
  let isGiven (place : Nat) : Bool := (header[place]?.bind id).isSome
  let order := places.filter isGiven ++ places.filter fun place => !isGiven place
  (order.foldl Naming.settle ⟨names, []⟩).names

end AskTable.File

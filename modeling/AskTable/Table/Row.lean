import AskTable.Cell.Key
import AskTable.Table.Entries

/-!
# Rows

A row is an ordered list of cells under distinct labels; any cell with a key can be a label.

* `Label`: a cell with its key.
* `Row`: the entries, no two of which have one key.
* `Row.get`, `Row.put`, `Row.select`: the cell under a label, a row with a cell changed or added,
  and the row of some labels.
-/

namespace AskTable

/-- A cell that tells columns apart. -/
structure Label where
  cell : Cell
  key : Key
  key_eq : cell.key = .ok key

namespace Label

/-- A column name. -/
def ofText (s : String) : Label := ⟨.text s, [.text s], by simp [Cell.key]⟩

instance : Inhabited Label := ⟨ofText ""⟩

/-- A cell as a label, if it has a key. -/
def ofCell (c : Cell) : Except Fault Label :=
  match h : c.key with
  | .ok key => .ok ⟨c, key, h⟩
  | .error fault => .error fault

/-- The label's text. -/
def text (l : Label) : String := l.cell.plainText

/-- Do two labels name one column? -/
def same (a b : Label) : Bool := a.key == b.key

theorem key_ofText (s : String) : (ofText s).key = [.text s] := rfl

end Label

structure Row where
  entries : List (Label × Cell)
  nodup : (Entries.keys Label.key entries).Nodup

namespace Row

def empty : Row := ⟨[], by simp [Entries.keys]⟩

instance : Inhabited Row := ⟨empty⟩

/-- The labels of a row, in order. -/
def labels (r : Row) : List Label := r.entries.map (·.1)

/-- The cells of a row, in order. -/
def cells (r : Row) : List Cell := r.entries.map (·.2)

/-- The cell under a label, if the row has that label. -/
def get? (r : Row) (l : Label) : Option Cell := Entries.find? Label.key l.key r.entries

/-- The cell under a label; nothing stands under a label that the row lacks. -/
def get (r : Row) (l : Label) : Cell := (r.get? l).getD .null

/-- The row with a cell under a label: in its place, or at the end. -/
def put (r : Row) (l : Label) (c : Cell) : Row :=
  ⟨Entries.put Label.key l c r.entries, Entries.nodup_put l c r.nodup⟩

/-- The row of some entries; of one label's cells the last counts, in the place of the first. -/
def ofList (entries : List (Label × Cell)) : Row :=
  ⟨Entries.putAll Label.key entries [], Entries.nodup_putAll entries (by simp [Entries.keys])⟩

/-- The row of some labels: each has the cell that `r` has under it, and a repeated label counts
once. -/
def select (r : Row) (labels : List Label) : Row := ofList (labels.map fun l => (l, r.get l))

end Row

end AskTable

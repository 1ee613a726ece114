import AskTable.Proofs.DelimitedRows
import AskTable.Proofs.Pieces
import AskTable.Proofs.PlainCells

/-!
# Uniform tables

Whatever comma-separated text holds, the rows read from it are uniform: all of them have the same
distinct labels in the same order, and every label and every cell is a text without blanks at its
ends. Repeated names, names that are the same without their blanks, short records and blank lines
make no difference.

* `Row.labels_ofList_congr`: the labels of a row depend on those of its entries alone.
* `Table.IsUniform`: a table of trimmed texts under the same names.
* `loadTable_delimited_isUniform`: every table from comma-separated text is one.
-/

namespace AskTable

open AskTable.Text AskTable.Question

/-! ## Labels of a row -/

namespace Label

/-- Only a column name has the key of one. -/
theorem eq_ofText_iff_key {l : Label} {s : String} : l = ofText s ↔ l.key = [.text s] := by
  constructor
  · rintro rfl
    rfl
  · intro hkey
    have hcell : l.cell = .text s := by
      rw [← Cell.key_eq_text, l.key_eq, hkey]
    cases l
    cases hcell
    cases hkey
    rfl

end Label

namespace Row

/-- The labels of a row depend on those of its entries alone. -/
theorem labels_ofList_congr {entries others : List (Label × Cell)}
    (h : entries.map (·.1) = others.map (·.1)) :
    (ofList entries).labels = (ofList others).labels := by
  have halike : Entries.Alike (fun _ _ => True) entries others := by
    rw [← List.forall₂_eq_eq_eq, List.forall₂_map_left_iff, List.forall₂_map_right_iff] at h
    exact h.imp fun _ _ heq => ⟨heq, trivial⟩
  have hput : Entries.Alike (fun _ _ => True) (Entries.putAll Label.key entries [])
      (Entries.putAll Label.key others []) := halike.putAll .nil
  rw [labels, labels, ← List.forall₂_eq_eq_eq, List.forall₂_map_left_iff,
    List.forall₂_map_right_iff]
  exact hput.imp fun _ _ heq => heq.1

/-- Every label of a row of texts is one of the names it was given. -/
theorem mem_labels_ofList {entries : List (Label × Cell)} {names : List String}
    (hnames : ∀ e ∈ entries, ∃ s ∈ names, e.1 = .ofText s) {l : Label}
    (h : l ∈ (ofList entries).labels) : ∃ s ∈ names, l = .ofText s := by
  obtain ⟨entry, hentry, rfl⟩ := List.mem_map.mp h
  have hkey : entry.1.key ∈ Entries.keys Label.key (ofList entries).entries :=
    List.mem_map_of_mem hentry
  rcases Entries.mem_keys_putAll.mp hkey with hkey | hkey
  · obtain ⟨e, he, heq⟩ := List.mem_map.mp hkey
    obtain ⟨s, hs, hlabel⟩ := hnames e he
    exact ⟨s, hs, Label.eq_ofText_iff_key.mpr (by rw [← heq, hlabel]; rfl)⟩
  · cases hkey

end Row

/-! ## Tables -/

/-- A table with rows, all of them under the same distinct names, in which every name and every cell
is a text without blanks at its ends. -/
structure Table.IsUniform (t : Table) : Prop where
  rows : t.rows ≠ []
  labels : ∀ r ∈ t.rows, r.labels = t.columns
  distinct : (t.columns.map Label.key).Nodup
  names : ∀ l ∈ t.columns, ∃ s, l = .ofText s ∧ IsTrimmed s.toList
  cells : ∀ r ∈ t.rows, ∀ c ∈ r.cells, ∃ s, c = .text s ∧ IsTrimmed s.toList

namespace File

theorem isTrimmed_fieldText (field : List Char) : IsTrimmed (fieldText field).toList := by
  rw [fieldText, String.toList_ofList]
  exact isTrimmed_trim field

/-- The names of the columns, as texts. -/
def columnTexts (header : Record) : List String :=
  (distinctNames (header.fields.map headerName)).map fun name => trimmed name.text

theorem columnNames_eq_map (header : Record) :
    columnNames header = (columnTexts header).map .ofText := by
  rw [columnNames, columnTexts, List.map_map]
  rfl

theorem isTrimmed_of_mem_columnTexts {header : Record} {s : String} (h : s ∈ columnTexts header) :
    IsTrimmed s.toList := by
  obtain ⟨name, -, rfl⟩ := List.mem_map.mp h
  rw [trimmed, String.toList_ofList]
  exact isTrimmed_trim _

/-- The entries of a row before they are put. -/
def entriesOf (names : List Label) (fields : List (List Char)) : List (Label × Cell) :=
  names.zip ((fields.drop (fields.length - names.length)).map fun f => .text (fieldText f))

theorem rowOf_eq_ofList (names : List Label) (fields : List (List Char)) :
    rowOf names fields = .ofList (entriesOf names fields) := rfl

theorem map_fst_zip_congr {α β γ : Type} {names : List α} {cells : List β} {others : List γ}
    (h : cells.length = others.length) :
    (names.zip cells).map (·.1) = (names.zip others).map (·.1) := by
  induction names generalizing cells others with
  | nil => rfl
  | cons name names ih =>
    cases cells <;> cases others
    case nil.nil => rfl
    case cons.cons => exact congrArg (name :: ·) (ih (Nat.succ.inj h))
    all_goals cases h

/-- Rows with equally many fields have the same labels. -/
theorem labels_rowOf_congr (names : List Label) {fields others : List (List Char)}
    (h : fields.length = others.length) :
    (rowOf names fields).labels = (rowOf names others).labels := by
  refine Row.labels_ofList_congr (map_fst_zip_congr ?_)
  rw [List.length_map, List.length_map, List.length_drop, List.length_drop, h]

theorem names_rowOf {header : Record} {fields : List (List Char)} {l : Label}
    (h : l ∈ (rowOf (columnNames header) fields).labels) :
    ∃ s, l = .ofText s ∧ IsTrimmed s.toList := by
  have hnames : ∀ e ∈ entriesOf (columnNames header) fields, ∃ s ∈ columnTexts header,
      e.1 = .ofText s := by
    intro e he
    have hname := (List.of_mem_zip he).1
    rw [columnNames_eq_map] at hname
    obtain ⟨s, hs, heq⟩ := List.mem_map.mp hname
    exact ⟨s, hs, heq.symm⟩
  rw [rowOf_eq_ofList] at h
  obtain ⟨s, hs, heq⟩ := Row.mem_labels_ofList hnames h
  exact ⟨s, heq, isTrimmed_of_mem_columnTexts hs⟩

theorem cells_rowOf {names : List Label} {fields : List (List Char)} {c : Cell}
    (h : c ∈ (rowOf names fields).cells) : ∃ s, c = .text s ∧ IsTrimmed s.toList := by
  obtain ⟨e, he, rfl⟩ := List.mem_map.mp h
  rcases Entries.value_mem_of_mem_putAll he with hvalue | hvalue
  · obtain ⟨p, hp, hcell⟩ := List.mem_map.mp hvalue
    obtain ⟨field, -, hfield⟩ := List.mem_map.mp (List.of_mem_zip hp).2
    exact ⟨fieldText field, by rw [← hcell, ← hfield], isTrimmed_fieldText field⟩
  · cases hvalue

/-- **Tables from comma-separated text are uniform,** whatever names their header has and however
long their records are. -/
theorem loadTable_delimited_isUniform {disk : Disk} {path : String} {table : Table}
    (hreader : reader? path = some .delimited) (hload : loadTable disk path = .ok table) :
    table.IsUniform := by
  obtain ⟨r, content, hr, hcontent, hrows, hne⟩ := loadTable_eq_ok_iff.mp hload
  cases hreader.symm.trans hr
  obtain ⟨text, htext, hdelimited⟩ := bind_eq_ok.mp hrows
  obtain ⟨first, hfirst, hcolumns⟩ := exists_row_of_rows_ne_nil hne
  rcases delimitedRows_eq_ok_iff.mp hdelimited with ⟨-, hnil⟩ | ⟨header, rs, -, hall, hmap⟩
  · exact absurd hnil hne
  · have hrow : ∀ row ∈ table.rows, ∃ fields : List (List Char),
        fields.length = recordWidth header rs ∧ row = rowOf (columnNames header) fields := by
      intro row hrow
      rw [hmap] at hrow
      obtain ⟨record, hrecord, rfl⟩ := List.mem_map.mp hrow
      exact ⟨_, length_padTo (hall record hrecord), rfl⟩
    obtain ⟨front, hfront, rfl⟩ := hrow first hfirst
    refine ⟨hne, fun row hmem => ?_, ?_, fun l hl => ?_, fun row hmem c hc => ?_⟩
    · obtain ⟨fields, hfields, rfl⟩ := hrow row hmem
      rw [hcolumns]
      exact labels_rowOf_congr _ (hfields.trans hfront.symm)
    · rw [hcolumns, Row.labels, List.map_map]
      exact (rowOf (columnNames header) front).nodup
    · rw [hcolumns] at hl
      exact names_rowOf hl
    · obtain ⟨fields, -, rfl⟩ := hrow row hmem
      exact cells_rowOf hc

/-- Two names are the same without their blanks and a third repeats the first; a line is blank, and a
record lacks all fields but one. -/
def unevenText : String := "a,a ,a\n x, y ,z\n\n4\n"

/-- The table of this text has one column for the first two names, with the cells of the second. -/
theorem loadTable_unevenText :
    reader? "/people.csv" = some .delimited ∧
      ∃ table, loadTable (diskOf unevenText) "/people.csv" = .ok table ∧ table.IsUniform ∧
        table.columns.map Label.text = ["a", "a.1"] ∧
        table.rows.map (fun row => row.cells.map Cell.plainText) = [["y", "z"], ["", ""]] := by
  have hreader : reader? "/people.csv" = some .delimited := by decide +kernel
  obtain ⟨table, hload⟩ : ∃ table, loadTable (diskOf unevenText) "/people.csv" = .ok table :=
    exists_of_isOk (by decide +kernel)
  have hshown : ((loadTable (diskOf unevenText) "/people.csv").toOption.map fun table =>
      (table.columns.map Label.text, table.rows.map fun row => row.cells.map Cell.plainText)) =
        some (["a", "a.1"], [["y", "z"], ["", ""]]) := by decide +kernel
  rw [hload] at hshown
  have hpair := Option.some.inj hshown
  exact ⟨hreader, table, hload, loadTable_delimited_isUniform hreader hload,
    congrArg Prod.fst hpair, congrArg Prod.snd hpair⟩

end File

end AskTable

import AskTable.File.Load
import AskTable.Proofs.Headers
import AskTable.Proofs.Plans

/-!
# Columns of loaded tables

The three readers find column names in different places. Comma-separated text and column files call
every column by a text, but the header of a sheet may hold any cell.

* `loadTable_eq_ok_iff`: when a table is loaded.
* `AllTexts`: columns are called by texts; `allTexts_labels_ofList`: those of a row are when its
  entries are.
* `allTexts_alikeLabels`: names that take one kind remain texts, or remain others.
* `allTexts_columns_iff`: the columns of a loaded table are called by texts exactly when the header
  of its sheet, if it comes from one, holds no other cells.
-/

namespace AskTable

open AskTable.Question

/-! ## Loading -/

namespace File

/-- A table is loaded exactly when there is a reader for the path, it gets the content of the file
and reads rows from it. -/
theorem loadTable_eq_ok_iff {disk : Disk} {path : String} {table : Table} :
    loadTable disk path = .ok table ↔
      ∃ r content, reader? path = some r ∧ r.content disk path = .ok content ∧
        r.rows path content = .ok table.rows ∧ table.rows ≠ [] := by
  have hload : loadTable disk path = .ok table ↔
      readRows disk path = .ok table.rows ∧ table.rows ≠ [] := by
    unfold loadTable
    split
    · rename_i hrows
      simp [hrows]
    · rename_i hrows
      simp only [hrows, reduceCtorEq, Except.ok.injEq, false_iff, not_and]
      exact fun hnil hne => hne hnil.symm
    · rename_i rows hne hrows
      rw [hrows, Except.ok.injEq, Except.ok.injEq]
      constructor
      · rintro rfl
        exact ⟨rfl, hne⟩
      · rintro ⟨rfl, -⟩
        rfl
  rw [hload]
  unfold readRows
  cases reader? path with
  | none => simp
  | some r =>
    simp only [bind_eq_ok, Option.some.injEq, exists_and_left, exists_eq_left']
    simp only [← and_assoc, exists_and_right]

end File

/-! ## Columns that are called by texts -/

/-- Every label is a text. -/
def AllTexts (labels : List Label) : Prop := ∀ l ∈ labels, l.cell.isText = true

theorem allTexts_iff_keys (labels : List Label) :
    AllTexts labels ↔ ∀ key ∈ labels.map Label.key, ∃ s, key = [.text s] := by
  rw [List.forall_mem_map]
  exact forall₂_congr fun l _ => l.isText_iff_key

theorem allTexts_map_ofText (names : List String) : AllTexts (names.map .ofText) := by
  intro l hl
  obtain ⟨s, -, rfl⟩ := List.mem_map.mp hl
  rfl

theorem Label.cell_ofCell {c : Cell} {l : Label} (h : Label.ofCell c = .ok l) : l.cell = c := by
  unfold Label.ofCell at h
  split at h
  · cases h
    rfl
  · cases h

/-- The labels of a row are texts exactly when those of its entries are. -/
theorem allTexts_labels_ofList (entries : List (Label × Cell)) :
    AllTexts (Row.ofList entries).labels ↔ AllTexts (entries.map (·.1)) := by
  have hkeys (es : List (Label × Cell)) :
      (es.map (·.1)).map Label.key = Entries.keys Label.key es := by
    rw [List.map_map]
    rfl
  rw [allTexts_iff_keys, allTexts_iff_keys, Row.labels, hkeys, hkeys]
  refine forall_congr' fun key => ?_
  rw [Row.ofList, Entries.mem_keys_putAll]
  simp [Entries.keys]

/-- With a cell for every label, the row has the labels. -/
theorem allTexts_labels_zip {labels : List Label} {cells : List Cell}
    (h : labels.length ≤ cells.length) :
    AllTexts (Row.ofList (labels.zip cells)).labels ↔ AllTexts labels := by
  rw [allTexts_labels_ofList, List.map_fst_zip h]

theorem AllTexts.labels_zip {labels : List Label} (h : AllTexts labels) (cells : List Cell) :
    AllTexts (Row.ofList (labels.zip cells)).labels := by
  rw [allTexts_labels_ofList]
  intro l hl
  obtain ⟨e, he, rfl⟩ := List.mem_map.mp hl
  exact h e.1 (List.of_mem_zip he).1

namespace File

/-! ## Sheets -/

/-- Cells that take one kind remain texts, or remain others. -/
theorem alike_eq_map (names : List Cell) :
    ∃ f : Cell → Cell, alike names = names.map f ∧ ∀ c ∈ names, (f c).isText = c.isText := by
  unfold alike
  split
  · refine ⟨asBinary, rfl, fun c _ => ?_⟩
    cases c <;> rfl
  · split
    · rename_i hstamps
      refine ⟨fun c => .stamp (stampable? c), rfl, fun c hc => ?_⟩
      have hstamp := List.all_eq_true.mp hstamps c hc
      cases c with
      | moment m => rfl
      | _ => cases hstamp
    · exact ⟨id, (List.map_id names).symm, fun _ _ => rfl⟩

theorem allTexts_alikeLabels (names : List Label) :
    AllTexts (alikeLabels names) ↔ AllTexts names := by
  obtain ⟨f, hf, htext⟩ := alike_eq_map (names.map (·.cell))
  rw [List.forall_mem_map] at htext
  have hlabels : alikeLabels names =
      names.map fun l => (Label.ofCell (f l.cell)).toOption.getD l := by
    rw [alikeLabels, hf, List.map_map, ← List.map_prod_left_eq_zip, List.map_map]
    rfl
  rw [hlabels, AllTexts, List.forall_mem_map]
  refine forall₂_congr fun l hl => ?_
  rcases hcell : Label.ofCell (f l.cell) with fault | label
  · rfl
  · rw [Except.toOption, Option.getD_some, Label.cell_ofCell hcell, htext l hl]

/-- The header of the first sheet. -/
def sheetHeader (sheets : List (List (List Cell))) : List Cell :=
  (grid (sheets.head?.getD [])).head?.getD []

/-- The rows of a sheet are called by texts exactly when its header holds no other names. -/
theorem allTexts_labels_workbookRows {sheets : List (List (List Cell))} {row : Row}
    (hrow : row ∈ workbookRows sheets) :
    AllTexts row.labels ↔ AllTexts ((sheetHeader sheets).filterMap sheetName) := by
  rw [workbookRows] at hrow
  unfold sheetRows at hrow
  unfold sheetHeader
  split at hrow
  · cases hrow
  · rename_i header rows hgrid
    obtain ⟨i, -, rfl⟩ := List.mem_map.mp hrow
    rw [allTexts_labels_zip (by simp), allTexts_alikeLabels, AllTexts, forall_distinctNames_isText,
      hgrid, List.head?_cons, Option.getD_some]
    simp [AllTexts]

/-! ## Texts and column files -/

theorem allTexts_labels_delimitedRows {text : List Char} {rows : List Row}
    (h : delimitedRows text = .ok rows) : ∀ row ∈ rows, AllTexts row.labels := by
  unfold delimitedRows at h
  split at h
  · cases h
    nofun
  · cases h
  · obtain ⟨fields, -, hrows⟩ := bind_eq_ok.mp h
    cases hrows
    intro row hrow
    obtain ⟨fs, -, rfl⟩ := List.mem_map.mp hrow
    refine AllTexts.labels_zip (fun l hl => ?_) _
    obtain ⟨name, -, rfl⟩ := List.mem_map.mp hl
    rfl

theorem allTexts_labels_columnFileRows (columns : List FileColumn) :
    ∀ row ∈ columnFileRows columns, AllTexts row.labels := by
  intro row hrow
  obtain ⟨i, -, rfl⟩ := List.mem_map.mp hrow
  exact (allTexts_map_ofText _).labels_zip _

/-! ## Loaded tables -/

/-- The columns of a table are the labels of its first row. -/
theorem exists_row_of_rows_ne_nil {table : Table} (h : table.rows ≠ []) :
    ∃ row ∈ table.rows, table.columns = row.labels := by
  obtain ⟨row, rows, hrows⟩ := List.exists_cons_of_ne_nil h
  exact ⟨row, by rw [hrows]; exact List.mem_cons_self, by rw [Table.columns, hrows]; rfl⟩

/-- The columns of a loaded table are called by texts exactly when the header of its sheet, if it
comes from a workbook, holds no other names. -/
theorem allTexts_columns_iff {disk : Disk} {path : String} {table : Table}
    (h : loadTable disk path = .ok table) :
    AllTexts table.columns ↔ ∀ sheets, reader? path = some .workbook →
      disk.read path = .ok (.workbook sheets) →
      AllTexts ((sheetHeader sheets).filterMap sheetName) := by
  obtain ⟨r, content, hreader, hcontent, hrows, hne⟩ := loadTable_eq_ok_iff.mp h
  obtain ⟨row, hrow, hcolumns⟩ := exists_row_of_rows_ne_nil hne
  rw [hcolumns]
  cases r with
  | delimited =>
    obtain ⟨text, -, hdelimited⟩ := bind_eq_ok.mp hrows
    refine iff_of_true (allTexts_labels_delimitedRows hdelimited row hrow) ?_
    intro sheets hworkbook
    cases hreader.symm.trans hworkbook
  | columnFile =>
    cases content with
    | columns columns =>
      rw [← Except.ok.inj hrows] at hrow
      refine iff_of_true (allTexts_labels_columnFileRows columns row hrow) ?_
      intro sheets hworkbook
      cases hreader.symm.trans hworkbook
    | _ => cases hrows
  | workbook =>
    have hread : disk.read path = .ok content := hcontent
    cases content with
    | workbook sheets =>
      rw [← Except.ok.inj hrows] at hrow
      rw [allTexts_labels_workbookRows hrow]
      constructor
      · intro htexts others _ hothers
        cases hread.symm.trans hothers
        exact htexts
      · exact fun htexts => htexts sheets hreader hread
    | _ => cases hrows

end File

end AskTable

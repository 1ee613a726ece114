import AskTable.Proofs.LoadedTables
import AskTable.Proofs.WrittenRecords

/-!
# Rows of comma-separated text

A row should have under each name of the header the field of its record at the same place. It has
the field as many places further on as the first record is longer than the header.

* `Record.HasNames`: the names of a header are given and differ.
* `columnNames_of_hasNames`: such names are kept, without the blanks around them.
* `entriesFrom`: a record under the names of a header, from one of its fields on.
* `widened_eq_ok_iff`, `delimitedRows_eq_ok_iff`: when a text has rows, and which.
* `entries_rowOf`: the entries of a row.
* `loadTable_delimited_iff`: which field stands under a name, and when it is the one in its place.
-/

namespace AskTable.File

open AskTable.Question AskTable.Text

/-! ## Names -/

/-- The names of the header are given and differ, also without the blanks around them. -/
def Record.HasNames (header : Record) : Prop :=
  (∀ field ∈ header.fields, fieldText field ≠ "") ∧ (header.fields.map fieldText).Nodup

theorem ne_nil_of_fieldText {field : List Char} (h : fieldText field ≠ "") : field ≠ [] := by
  rintro rfl
  exact h rfl

theorem headerName_of_ne_nil {field : List Char} (h : field ≠ []) :
    headerName field = some (.ofText (String.ofList field)) := by
  cases field with
  | nil => exact absurd rfl h
  | cons c field => rfl

/-- Names that are given and differ are kept, without the blanks around them. -/
theorem columnNames_of_hasNames {header : Record} (h : header.HasNames) :
    columnNames header = header.fields.map fun field => .ofText (fieldText field) := by
  obtain ⟨hgiven, hdiffer⟩ := h
  have hnames : header.fields.map headerName =
      (header.fields.map fun field => Label.ofText (String.ofList field)).map some := by
    rw [List.map_map]
    exact List.map_congr_left fun field hfield =>
      headerName_of_ne_nil (ne_nil_of_fieldText (hgiven field hfield))
  have hkeys : ((header.fields.map fun field => Label.ofText (String.ofList field)).map
      Label.key).Nodup := by
    rw [List.map_map]
    rw [List.Nodup, List.pairwise_map] at hdiffer ⊢
    refine hdiffer.imp fun hne hkey => hne ?_
    simp only [Function.comp_apply, Label.key_ofText, List.cons.injEq, Atom.text.injEq,
      String.ofList_inj, and_true] at hkey
    rw [hkey]
  rw [columnNames, hnames, distinctNames_of_nodup hkeys, List.map_map]
  refine List.map_congr_left fun field _ => ?_
  simp [Label.text, Label.ofText, Cell.plainText, trimmed, fieldText]

/-! ## Records under names -/

/-- The text of a field; a record that is shorter has empty ones there. -/
def Record.cellText (r : Record) (place : Nat) : String := fieldText (r.fields[place]?.getD [])

/-- A record under the names of a header, from one of its fields on. -/
def entriesFrom (header : Record) (first : Nat) (r : Record) : List (Label × Cell) :=
  (List.range header.fields.length).map fun place =>
    (.ofText (header.cellText place), .text (r.cellText (first + place)))

/-- By how many fields the first record is longer than the header. -/
def surplus (header : Record) (rows : List Record) : Nat :=
  (rows.head?.map fun r => r.fields.length).getD 0 - header.fields.length

theorem recordWidth_eq (header : Record) (rows : List Record) :
    recordWidth header rows = surplus header rows + header.fields.length := by
  unfold recordWidth surplus
  omega

theorem length_padTo {width : Nat} {fields : List (List Char)} (h : fields.length ≤ width) :
    (padTo width fields).length = width := by
  simp [padTo]
  omega

theorem getElem?_padTo {width place : Nat} {fields : List (List Char)} (h : place < width) :
    (padTo width fields)[place]? = some (fields[place]?.getD []) := by
  unfold padTo
  by_cases hlt : place < fields.length
  · rw [List.getElem?_append_left hlt, List.getElem?_eq_getElem hlt]
    rfl
  · have hge : fields.length ≤ place := Nat.le_of_not_lt hlt
    rw [List.getElem?_append_right hge, List.getElem?_eq_none hge, List.getElem?_replicate,
      if_pos (by omega)]
    rfl

theorem map_fields_eq (header : Record) :
    (header.fields.map fun field => Label.ofText (fieldText field)) =
      (List.range header.fields.length).map fun place => .ofText (header.cellText place) := by
  refine List.ext_getElem (by simp) fun place hplace _ => ?_
  have hlt : place < header.fields.length := by simpa using hplace
  simp [Record.cellText, hlt]

theorem map_drop_padTo (r : Record) (first count : Nat)
    (hle : r.fields.length ≤ first + count) :
    ((padTo (first + count) r.fields).drop first).map (fun field => Cell.text (fieldText field)) =
      (List.range count).map fun place => .text (r.cellText (first + place)) := by
  refine List.ext_getElem? fun place => ?_
  rw [List.getElem?_map, List.getElem?_map, List.getElem?_drop]
  by_cases hlt : place < count
  · rw [getElem?_padTo (by omega), List.getElem?_range hlt]
    rfl
  · rw [List.getElem?_eq_none (by rw [length_padTo hle]; omega),
      List.getElem?_eq_none (by simpa using hlt)]
    rfl

theorem keys_entriesFrom (header : Record) (first : Nat) (r : Record) :
    Entries.keys Label.key (entriesFrom header first r) =
      (header.fields.map fieldText).map fun s => [.text s] := by
  have hkeys : Entries.keys Label.key (entriesFrom header first r) =
      (header.fields.map fun field => Label.ofText (fieldText field)).map Label.key := by
    rw [map_fields_eq, Entries.keys, entriesFrom, List.map_map, List.map_map]
    rfl
  rw [hkeys, List.map_map, List.map_map]
  rfl

/-- The entries of a row under the names of the header. -/
theorem entries_rowOf {header r : Record} (h : header.HasNames) {first : Nat}
    (hle : r.fields.length ≤ first + header.fields.length) :
    (rowOf (columnNames header) (padTo (first + header.fields.length) r.fields)).entries =
      entriesFrom header first r := by
  have hfirst : (padTo (first + header.fields.length) r.fields).length -
      (columnNames header).length = first := by
    rw [length_padTo hle, columnNames_of_hasNames h, List.length_map, Nat.add_sub_cancel]
  have hnodup : (Entries.keys Label.key ([] ++ entriesFrom header first r)).Nodup := by
    rw [List.nil_append, keys_entriesFrom, List.Nodup, List.pairwise_map]
    exact h.2.imp fun hne heq => hne (by simpa using heq)
  rw [rowOf, hfirst, columnNames_of_hasNames h, map_fields_eq, map_drop_padTo r _ _ hle,
    List.zip_map']
  exact Entries.putAll_of_nodup hnodup

/-! ## Rows of a text -/

theorem widened_eq_ok_iff {width : Nat} {rows : List Record} {fields : List (List (List Char))} :
    widened width rows = .ok fields ↔ (∀ r ∈ rows, r.fields.length ≤ width) ∧
      fields = rows.map fun r => padTo width r.fields := by
  induction rows generalizing fields with
  | nil => simp [widened, eq_comm]
  | cons r rows ih =>
    rw [widened, List.forall_mem_cons]
    split
    · rename_i hlt
      simp [Nat.not_le.mpr hlt]
    · rename_i hlt
      have hle : r.fields.length ≤ width := Nat.le_of_not_lt hlt
      rw [bind_eq_ok]
      constructor
      · rintro ⟨rest, hrest, hfields⟩
        cases hfields
        obtain ⟨hall, rfl⟩ := ih.mp hrest
        exact ⟨⟨hle, hall⟩, rfl⟩
      · rintro ⟨⟨-, hall⟩, rfl⟩
        exact ⟨_, ih.mpr ⟨hall, rfl⟩, rfl⟩

theorem rowFields_eq_ok_iff {header : Record} {rs : Records} {fields : List (List (List Char))} :
    rowFields header rs = .ok fields ↔
      widened (recordWidth header rs.records) rs.records = .ok fields ∧ rs.openQuote = none := by
  rw [rowFields, bind_eq_ok]
  cases rs.openQuote <;> simp

/-- A text has rows when no record is longer than the longer one of the first two, and no quotes are
left open. -/
theorem delimitedRows_eq_ok_iff {text : List Char} {rows : List Row} :
    delimitedRows text = .ok rows ↔ records text = ⟨[], none⟩ ∧ rows = [] ∨
      ∃ header rs, records text = ⟨header :: rs, none⟩ ∧
        (∀ r ∈ rs, r.fields.length ≤ recordWidth header rs) ∧
        rows = rs.map fun r =>
          rowOf (columnNames header) (padTo (recordWidth header rs) r.fields) := by
  unfold delimitedRows
  rcases hrecords : records text with ⟨_ | ⟨header, rs⟩, openQuote⟩
  · cases openQuote <;> simp [eq_comm]
  · simp only [bind_eq_ok, rowFields_eq_ok_iff, widened_eq_ok_iff]
    constructor
    · rintro ⟨fields, ⟨⟨hall, rfl⟩, hquote⟩, hrows⟩
      cases hrows
      exact Or.inr ⟨header, rs, by rw [show openQuote = none from hquote], hall, List.map_map⟩
    · rintro (⟨hnil, -⟩ | ⟨other, others, hothers, hall, rfl⟩)
      · cases hnil
      · cases hothers
        exact ⟨_, ⟨⟨hall, rfl⟩, rfl⟩, congrArg Except.ok List.map_map⟩

/-! ## Loaded tables -/

/-- Two records give the same row exactly when they have the same texts under the names. -/
theorem entriesFrom_eq_iff {header r : Record} {first other : Nat} :
    entriesFrom header first r = entriesFrom header other r ↔
      ∀ place < header.fields.length, r.cellText (first + place) = r.cellText (other + place) := by
  simp [entriesFrom]

/-- **What stands under a name.** The records of comma-separated text are those that were written,
and the first of them is the header. When its names are given and differ, every other record is a
row, in order: under each name stands the field as many places further on as the first of these
records is longer than the header, or an empty text. It is the field in the same place exactly when
both fields have the same text, so always when the first record is not longer. -/
theorem loadTable_delimited_iff {disk : Disk} {path : String} {table : Table}
    (hreader : reader? path = some .delimited) (hload : loadTable disk path = .ok table) :
    ∃ content text header rs, disk.read path = .ok content ∧ characters content = .ok text ∧
      records text = ⟨header :: rs, none⟩ ∧ rs ≠ [] ∧
      (∀ recs, Written recs (unmarked text) → recs = (header :: rs).map Record.fields) ∧
      (surplus header rs = 0 ↔
        ∀ r, rs.head? = some r → r.fields.length ≤ header.fields.length) ∧
      (header.HasNames →
        table.rows.map Row.entries = rs.map (entriesFrom header (surplus header rs)) ∧
        (table.rows.map Row.entries = rs.map (entriesFrom header 0) ↔
          ∀ r ∈ rs, ∀ place < header.fields.length,
            r.cellText (surplus header rs + place) = r.cellText place)) := by
  obtain ⟨r, content, hr, hcontent, hrows, hne⟩ := loadTable_eq_ok_iff.mp hload
  cases hreader.symm.trans hr
  obtain ⟨text, htext, hdelimited⟩ := bind_eq_ok.mp hrows
  rcases delimitedRows_eq_ok_iff.mp hdelimited with ⟨-, hnil⟩ | ⟨header, rs, hrecords, hall, hmap⟩
  · exact absurd hnil hne
  · refine ⟨content, text, header, rs, hcontent, htext, hrecords, ?_, fun recs hwritten => ?_, ?_,
      fun hnames => ?_⟩
    · rintro rfl
      exact hne hmap
    · obtain ⟨others, hothers, hfields⟩ := records_written hwritten
      cases hrecords.symm.trans hothers
      exact hfields.symm
    · unfold surplus
      rcases rs.head? with - | r
      · simp
      · simp [Nat.sub_eq_zero_iff_le]
    · have hentries : table.rows.map Row.entries =
          rs.map (entriesFrom header (surplus header rs)) := by
        rw [hmap, List.map_map]
        refine List.map_congr_left fun r hr => ?_
        have hle := hall r hr
        rw [recordWidth_eq] at hle
        rw [Function.comp_apply, recordWidth_eq, entries_rowOf hnames hle]
      refine ⟨hentries, ?_⟩
      rw [hentries, List.map_inj_left]
      simp only [entriesFrom_eq_iff, Nat.zero_add]

/-! ## A short record and a long one -/

/-- A disk with one file of comma-separated text. -/
def diskOf (text : String) : Disk := ⟨"/", [("/people.csv", .file (.text text))]⟩

/-- Quotes, a blank line and a record without its second field. -/
def raggedText : String := "id, name\n\n1, \"Ada, \"\"A\"\"\"\n2\n"

/-- Every record stands under the names, field by field. -/
theorem loadTable_delimited_ragged :
    reader? "/people.csv" = some .delimited ∧
      ∃ table, loadTable (diskOf raggedText) "/people.csv" = .ok table ∧
        table.rows.map Row.entries =
          [[(.ofText "id", .text "1"), (.ofText "name", .text "Ada, \"A\"")],
            [(.ofText "id", .text "2"), (.ofText "name", .text "")]] := by
  have hreader : reader? "/people.csv" = some .delimited := by decide +kernel
  obtain ⟨table, hload⟩ : ∃ table, loadTable (diskOf raggedText) "/people.csv" = .ok table :=
    exists_of_isOk (by decide +kernel)
  have hrecords : records raggedText.toList = ⟨[⟨[['i', 'd'], ['n', 'a', 'm', 'e']], 0⟩,
      ⟨[['1'], "Ada, \"A\"".toList], 2⟩, ⟨[['2']], 3⟩], none⟩ := by decide +kernel
  obtain ⟨content, text, header, rs, hread, htext, hrs, -, -, -, hrows⟩ :=
    loadTable_delimited_iff hreader hload
  have hcontent : (diskOf raggedText).read "/people.csv" = .ok (.text raggedText) := rfl
  cases hcontent.symm.trans hread
  cases htext
  cases hrecords.symm.trans hrs
  obtain ⟨hentries, -⟩ := hrows ⟨by decide +kernel, by decide +kernel⟩
  exact ⟨hreader, table, hload, hentries⟩

/-- A record with one field more than the header. -/
def longText : String := "a,b\n1,2,3\n"

theorem written_longText :
    Written [[['a'], ['b']], [['1'], ['2'], ['3']]] (unmarked longText.toList) := by
  have hfield (c : Char) (hc : c ≠ ',' ∧ c ≠ '\n' ∧ c ≠ '\r' ∧ c ≠ '\x00') (hquote : c ≠ '"')
      (hspace : c ≠ ' ') : FieldText [c] [c] :=
    .bare (by simpa [IsBare] using hc) (by simpa using hquote) (by simpa using hspace)
  have hheader : LineText [['a'], ['b']] ['a', ',', 'b'] :=
    .cons (hfield 'a' (by decide) (by decide) (by decide))
      (.last (hfield 'b' (by decide) (by decide) (by decide)))
  have hrecord : LineText [['1'], ['2'], ['3']] ['1', ',', '2', ',', '3'] :=
    .cons (hfield '1' (by decide) (by decide) (by decide))
      (.cons (hfield '2' (by decide) (by decide) (by decide))
        (.last (hfield '3' (by decide) (by decide) (by decide))))
  exact .line hheader (by simp [IsBlankLine]) .feed
    (.line hrecord (by simp [IsBlankLine]) .feed (.blank nofun))

/-- The first record is longer than the header, and its first field is lost. -/
theorem loadTable_longText :
    Written [[['a'], ['b']], [['1'], ['2'], ['3']]] (unmarked longText.toList) ∧
      (Record.mk [['a'], ['b']] 0).HasNames ∧
      ∃ table, loadTable (diskOf longText) "/people.csv" = .ok table ∧
        (table.rows.map fun row => row.entries.map fun e => (e.1.text, e.2.plainText)) =
          [[("a", "2"), ("b", "3")]] ∧
        table.rows.map Row.entries ≠
          [[(.ofText "a", .text "1"), (.ofText "b", .text "2")]] := by
  obtain ⟨table, hload⟩ : ∃ table, loadTable (diskOf longText) "/people.csv" = .ok table :=
    exists_of_isOk (by decide +kernel)
  have hshown : ((loadTable (diskOf longText) "/people.csv").toOption.map fun table =>
      table.rows.map fun row => row.entries.map fun e => (e.1.text, e.2.plainText)) =
        some [[("a", "2"), ("b", "3")]] := by decide +kernel
  rw [hload] at hshown
  have hrows := Option.some.inj hshown
  refine ⟨written_longText, ⟨by decide +kernel, by decide +kernel⟩, table, hload, hrows,
    fun hentries => ?_⟩
  have hmapped := congrArg (List.map (List.map fun e => (e.1.text, e.2.plainText))) hentries
  rw [List.map_map] at hmapped
  have hother := hrows.symm.trans hmapped
  revert hother
  decide +kernel

end AskTable.File

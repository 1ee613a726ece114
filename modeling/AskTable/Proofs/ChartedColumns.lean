import AskTable.Proofs.ColumnMeasures
import AskTable.Proofs.FirstLabels
import AskTable.Proofs.LongestNumerals

/-!
# The columns in a chart

A chart looks twice at the columns that it is asked for: the first row tells which of them are
numeric, and all rows give the numbers. A cell may look numeric and read as no number, so a numeric
column can be left out, and a column that is not numeric is left out whatever its other rows hold.

* `Cell.reading?`, `numbersIn`: what the cells of a column read as.
* `figures?_eq_ok`: the figures of a column are those of its numbers.
* `map_fst_given`, `mem_given`: the columns that have any.
* `Chart.Covers`: the columns of a chart, their counts, and the settings to draw them with;
  `covers_of_recommend`: every chart covers what it is asked for.
-/

namespace AskTable

open AskTable.Number AskTable.Question

/-! ## The numbers of a column -/

/-- The number that a cell reads as, if it reads as one. -/
def Cell.reading? (c : Cell) : Option Binary64 := c.number?.toOption.bind id

theorem Cell.reading?_eq {c : Cell} {x : Option Binary64} (h : c.number? = .ok x) :
    c.reading? = x := by
  rw [reading?, h]
  rfl

/-- A text with a numeral at its front looks numeric, and it reads as a number. -/
theorem Cell.reading?_text {s : String} (h : ¬ LeadsWithNone s) :
    (Cell.text s).looksNumeric = true ∧ (Cell.text s).reading?.isSome = true := by
  rcases leads_cases s with ⟨n, -, -, hnumber⟩ | ⟨hnone, -⟩
  · have hleading : Cell.leading? (.text s) = some n.value := Except.ok.inj hnumber
    exact ⟨by rw [Cell.looksNumeric, hleading]; rfl, by rw [reading?_eq hnumber]; rfl⟩
  · exact absurd hnone h

namespace Report

variable {rows : List Row}

/-- The numbers that the cells of a column read as, in row order. -/
def numbersIn (rows : List Row) (label : Label) : List Binary64 :=
  rows.filterMap fun r => (r.get label).reading?

/-- How many cells of a column read as numbers. -/
def numberCount (rows : List Row) (label : Label) : Nat :=
  rows.countP fun r => (r.get label).reading?.isSome

/-- Does a cell of a column read as a number? -/
def holdsNumber (rows : List Row) (label : Label) : Bool :=
  rows.any fun r => (r.get label).reading?.isSome

theorem length_numbersIn (label : Label) :
    (numbersIn rows label).length = numberCount rows label := by
  rw [numbersIn, List.length_filterMap_eq_countP, numberCount]

theorem numberCount_pos_iff {label : Label} :
    0 < numberCount rows label ↔ holdsNumber rows label = true := by
  rw [numberCount, List.countP_pos_iff, holdsNumber, List.any_eq_true]

theorem holdsNumber_congr {l m : Label} (h : l.key = m.key) :
    holdsNumber rows l = holdsNumber rows m := by
  simp only [holdsNumber, fun r : Row => r.get_congr h]

theorem figures?_congr {l m : Label} (h : l.key = m.key) : figures? rows l = figures? rows m := by
  simp only [figures?, columnNumbers, column, fun r : Row => r.get_congr h]

theorem columnNumbers_eq_ok {label : Label} {xs : List Binary64}
    (h : columnNumbers rows label = .ok xs) : xs = numbersIn rows label := by
  obtain ⟨readings, hreadings, hxs⟩ := bind_eq_ok.mp h
  cases hxs
  rw [column, List.mapM_map] at hreadings
  have hpaired := mapM_eq_ok.mp hreadings
  clear hreadings h
  rw [numbersIn]
  induction hpaired with
  | nil => rfl
  | @cons r x _ _ hr _ ih =>
    have hreading : (r.get label).reading? = x := Cell.reading?_eq hr
    rw [List.filterMap_cons, List.filterMap_cons, hreading, ih, id_eq]

theorem figures?_eq_ok {label : Label} {figures : Option Figures}
    (h : figures? rows label = .ok figures) : figures = figuresOf (numbersIn rows label) := by
  obtain ⟨xs, hxs, hfigures⟩ := bind_eq_ok.mp h
  cases hfigures
  rw [columnNumbers_eq_ok hxs]

theorem isSome_figuresOf (xs : List Binary64) : (figuresOf xs).isSome = !xs.isEmpty := by
  cases xs <;> rfl

/-- There are figures where a cell reads as a number. -/
theorem isSome_figures {label : Label} {figures : Option Figures}
    (h : figures? rows label = .ok figures) : figures.isSome = holdsNumber rows label := by
  rw [figures?_eq_ok h, isSome_figuresOf, Bool.eq_iff_iff, Bool.not_eq_true', ← numberCount_pos_iff,
    ← length_numbersIn, List.length_pos_iff_ne_nil, List.isEmpty_eq_false_iff]

/-- Among the figures of some numbers are how many there are and what their mean is. -/
theorem find?_of_figuresOf {xs : List Binary64} {figures : Figures}
    (h : figuresOf xs = some figures) :
    figures.find? "count" = some (.int xs.length) ∧
      figures.find? "avg" = some (.float (mean xs)) := by
  cases xs with
  | nil => cases h
  | cons x xs =>
    cases h
    exact ⟨rfl, rfl⟩

/-! ## Columns with figures -/

theorem mem_given {α β : Type} {entries : List (α × Option β)} {a : α} {b : β} :
    (a, b) ∈ given entries ↔ (a, some b) ∈ entries := by
  rw [given, List.mem_filterMap]
  constructor
  · rintro ⟨⟨a', b'⟩, he, hmap⟩
    obtain ⟨b'', rfl, heq⟩ := Option.map_eq_some_iff.mp hmap
    cases heq
    exact he
  · exact fun h => ⟨_, h, rfl⟩

theorem map_fst_given {α β : Type} {p : α → Bool} {entries : List (α × Option β)}
    (h : ∀ e ∈ entries, e.2.isSome = p e.1) :
    (given entries).map (·.1) = (entries.map (·.1)).filter p := by
  induction entries with
  | nil => rfl
  | cons e entries ih =>
    obtain ⟨he, hrest⟩ := List.forall_mem_cons.mp h
    rw [given] at ih ⊢
    rcases e with ⟨a, - | b⟩
    · rw [List.map_cons, List.filter_cons_of_neg (by rw [← he]; simp), ← ih hrest]
      rfl
    · rw [List.map_cons, List.filter_cons_of_pos (by rw [← he]; rfl), ← ih hrest]
      rfl

/-- What is measured for some columns, each under the first of its labels. -/
theorem measured_eq_ok {α : Type} {f : Label → Except Fault α} {columns : List Label}
    {figures : List (Label × α)} (hf : ∀ l m : Label, l.key = m.key → f l = f m)
    (h : measured f columns = .ok figures) :
    figures.map (·.1) = columns.eraseDupsBy Label.same ∧ ∀ e ∈ figures, f e.1 = .ok e.2 := by
  obtain ⟨pairs, hpaired, rfl⟩ := exists_paired_of_measured h
  constructor
  · rw [Entries.map_fst_putAll, hpaired.labels_eq]
    simp [Entries.keys]
  · have hsame : ∀ l m a, l.key = m.key → f l = .ok a → f m = .ok a := by
      intro l m a hkey hl
      rw [← hf l m hkey, hl]
    exact Entries.forall_putAll hsame hpaired.forall_mem (by simp)

/-- The figures of columns: of those with a number, each under the first of its labels. -/
theorem aggregate_eq_ok {columns : List Label} {statistics : List (Label × Figures)}
    (h : aggregate rows columns = .ok statistics) :
    statistics.map (·.1) = (columns.filter (holdsNumber rows)).eraseDupsBy Label.same ∧
      (Entries.keys Label.key statistics).Nodup ∧
      ∀ e ∈ statistics, figuresOf (numbersIn rows e.1) = some e.2 := by
  obtain ⟨figures, hfigures, hgiven⟩ := bind_eq_ok.mp h
  cases hgiven
  obtain ⟨hlabels, hvalues⟩ := measured_eq_ok (fun _ _ => figures?_congr) hfigures
  refine ⟨?_, (nodup_measured hfigures).sublist (keys_given_sublist figures), ?_⟩
  · rw [map_fst_given fun e he => isSome_figures (hvalues e he), hlabels,
      Label.filter_eraseDupsBy fun _ _ => holdsNumber_congr]
  · intro e he
    exact (figures?_eq_ok (hvalues _ (mem_given.mp he))).symm

/-! ## Charts -/

/-- Does a column look numeric on the first row? Without rows none does. -/
def looksNumericFirst (rows : List Row) (label : Label) : Bool :=
  rows.head?.any fun first => (first.get label).looksNumeric

theorem numericColumns_eq_filter (columns : List Label) :
    numericColumns rows columns = columns.filter (looksNumericFirst rows) := by
  cases rows with
  | nil => exact (List.filter_eq_nil_iff.mpr (by simp [looksNumericFirst])).symm
  | cons first rows => rfl

/-- A chart has a sentence if no column looks numeric, and figures of those that do otherwise. -/
theorem recommend_cases {columns : List Label} {chart : Chart}
    (h : recommend rows columns = .ok chart) :
    (columns.filter (looksNumericFirst rows) = [] ∧ chart.kind = .summary ∧ chart.statistics = [] ∧
      chart.message = some s!"Found {rows.length} records with {columns.length} columns") ∨
    columns.filter (looksNumericFirst rows) ≠ [] ∧ chart.kind = .aggregated ∧
      chart.message = none ∧
      aggregate rows (columns.filter (looksNumericFirst rows)) = .ok chart.statistics := by
  simp only [recommend, numericColumns_eq_filter] at h
  split at h
  · rename_i hnone
    cases h
    exact Or.inl ⟨List.isEmpty_iff.mp hnone, rfl, rfl, rfl⟩
  · rename_i hsome
    obtain ⟨statistics, hstatistics, hchart⟩ := bind_eq_ok.mp h
    cases hchart
    exact Or.inr ⟨fun hnil => hsome (List.isEmpty_iff.mpr hnil), rfl, rfl, hstatistics⟩

/-- The figures in a chart, whichever kind it is of. -/
theorem charted_of_recommend {columns : List Label} {chart : Chart}
    (h : recommend rows columns = .ok chart) :
    chart.statistics.map (·.1) = (columns.filter fun l =>
        looksNumericFirst rows l && holdsNumber rows l).eraseDupsBy Label.same ∧
      (Entries.keys Label.key chart.statistics).Nodup ∧
      ∀ e ∈ chart.statistics, figuresOf (numbersIn rows e.1) = some e.2 := by
  have hboth : (columns.filter fun l => looksNumericFirst rows l && holdsNumber rows l) =
      (columns.filter (looksNumericFirst rows)).filter (holdsNumber rows) := by
    rw [List.filter_filter]
    exact List.filter_congr fun l _ => Bool.and_comm _ _
  rw [hboth]
  rcases recommend_cases h with ⟨hnone, -, hstatistics, -⟩ | ⟨-, -, -, haggregate⟩
  · rw [hnone, hstatistics]
    exact ⟨rfl, List.nodup_nil, by simp⟩
  · exact aggregate_eq_ok haggregate

/-- What a chart of some rows shows of the columns that it is asked for. -/
structure Chart.Covers (chart : Chart) (rows : List Row) (columns : List Label) : Prop where
  /-- In order, each once, the columns that look numeric on the first row and have a cell that reads
  as a number on any row. -/
  labels : chart.statistics.map (·.1) = (columns.filter fun l =>
    looksNumericFirst rows l && holdsNumber rows l).eraseDupsBy Label.same
  distinct : (Entries.keys Label.key chart.statistics).Nodup
  counts : ∀ e ∈ chart.statistics, e.2.find? "count" = some (.int (numberCount rows e.1)) ∧
    1 ≤ numberCount rows e.1 ∧ numberCount rows e.1 ≤ rows.length
  /-- No column is missing in which the first row has a text with a numeral at its front. -/
  numerals : ∀ first ∈ rows.head?, ∀ l ∈ columns, ∀ s, first.get l = .text s →
    ¬ LeadsWithNone s → l.key ∈ Entries.keys Label.key chart.statistics
  summary : chart.kind = .summary ↔ ∀ l ∈ columns, looksNumericFirst rows l = false
  /-- A summary has no figures, and only a summary has a sentence. -/
  sentence : chart.kind = .summary ∧ chart.statistics = [] ∧
      chart.message = some s!"Found {rows.length} records with {columns.length} columns" ∨
    chart.kind = .aggregated ∧ chart.message = none
  /-- Under its label each column with figures is found, and its mean is one of them. -/
  found : ∀ e ∈ chart.statistics,
    Entries.find? Label.key e.1.key chart.statistics = some e.2 ∧
      e.2.find? "avg" = some (.float (mean (numbersIn rows e.1)))
  /-- However cells are written, there are settings to draw the chart with: one point, the mean, for
  each column with figures, and no data for a summary. -/
  drawn : ∀ write : Cell → Json, ∃ settings, chart.configuration (fun c => .ok (write c)) =
      .ok settings ∧ ((settings.member? "data").isSome = true ↔ chart.kind = .aggregated) ∧
    (chart.kind = .aggregated → settings.Draws (chart.statistics.map fun e => write e.1.cell)
      (chart.statistics.map fun e => write (.float (mean (numbersIn rows e.1)))))

/-- **Every chart covers exactly the columns with numbers,** whatever columns it is asked for, and
there are settings to draw it with. -/
theorem covers_of_recommend {columns : List Label} {chart : Chart}
    (h : recommend rows columns = .ok chart) : chart.Covers rows columns := by
  obtain ⟨hlabels, hdistinct, hfigures⟩ := charted_of_recommend h
  have hmean : ∀ e ∈ chart.statistics,
      e.2.find? "avg" = some (.float (mean (numbersIn rows e.1))) :=
    fun e he => (find?_of_figuresOf (hfigures e he)).2
  refine
    { labels := hlabels
      distinct := hdistinct
      counts := fun e he => ?_
      numerals := fun first hfirst l hl s hs hnumeral => ?_
      summary := ?_
      sentence := ?_
      found := fun e he => ⟨Entries.find?_of_mem hdistinct he, hmean e he⟩
      drawn := fun write => ?_ }
  · obtain ⟨hcount, -⟩ := find?_of_figuresOf (hfigures e he)
    have hsome : (numbersIn rows e.1).isEmpty = false := by
      simpa [hfigures e he] using (isSome_figuresOf (numbersIn rows e.1)).symm
    have hpositive := List.length_pos_iff_ne_nil.mpr (List.isEmpty_eq_false_iff.mp hsome)
    rw [length_numbersIn] at hcount hpositive
    exact ⟨hcount, hpositive, List.countP_le_length⟩
  · obtain ⟨hlooks, hreading⟩ := Cell.reading?_text hnumeral
    rw [← hs] at hlooks hreading
    have hnumeric : looksNumericFirst rows l = true := by
      rw [looksNumericFirst, Option.any_eq_true]
      exact ⟨first, hfirst, hlooks⟩
    have hholds : holdsNumber rows l = true :=
      List.any_eq_true.mpr ⟨first, List.mem_of_mem_head? hfirst, hreading⟩
    have hchosen : l ∈ columns.filter fun l => looksNumericFirst rows l && holdsNumber rows l :=
      List.mem_filter.mpr ⟨hl, by rw [hnumeric, hholds]; rfl⟩
    have hkey := Label.key_mem_eraseDupsBy hchosen
    rwa [← hlabels, List.map_map] at hkey
  · have hnone : columns.filter (looksNumericFirst rows) = [] ↔
        ∀ l ∈ columns, looksNumericFirst rows l = false := by
      simp [List.filter_eq_nil_iff]
    rw [← hnone]
    rcases recommend_cases h with ⟨hnil, hkind, -⟩ | ⟨hne, hkind, -⟩
    · exact iff_of_true hkind hnil
    · exact iff_of_false (by simp [hkind]) hne
  · rcases recommend_cases h with ⟨-, hkind, hstatistics, hmessage⟩ | ⟨-, hkind, hmessage, -⟩
    · exact Or.inl ⟨hkind, hstatistics, hmessage⟩
    · exact Or.inr ⟨hkind, hmessage⟩
  · have hpoints : chart.statistics.map (fun e => write (meanFigure e.2)) =
        chart.statistics.map fun e => write (.float (mean (numbersIn rows e.1))) :=
      List.map_congr_left fun e he => by rw [meanFigure, hmean e he, Option.getD_some]
    rw [← hpoints]
    exact configuration_eq List.mapM_pure List.mapM_pure

/-- Two sales: a weight with its unit, a price that is no number, and a name that is one only in the
second row, where the weight is missing. -/
def unevenRows : List Row :=
  [Row.ofList [(.ofText "weight", .text "12 kg"), (.ofText "price", .float .nan),
      (.ofText "name", .text "plums")],
    Row.ofList [(.ofText "price", .text "free"), (.ofText "name", .text "7")]]

/-- Of four columns that are asked for, one of them twice and one unknown, one has figures: the
price looks numeric and has no number, and the name has a number and does not look numeric. -/
theorem covers_unevenRows :
    ∃ chart, recommend unevenRows [.ofText "name", .ofText "weight", .ofText "price",
        .ofText "colour", .ofText "weight"] = .ok chart ∧
      chart.Covers unevenRows [.ofText "name", .ofText "weight", .ofText "price",
        .ofText "colour", .ofText "weight"] ∧
      chart.statistics.map (·.1.text) = ["weight"] ∧
      numberCount unevenRows (.ofText "weight") = 1 := by
  obtain ⟨chart, hchart, hlabels⟩ : ∃ chart, recommend unevenRows [.ofText "name", .ofText "weight",
      .ofText "price", .ofText "colour", .ofText "weight"] = .ok chart ∧
        chart.statistics.map (·.1.text) = ["weight"] :=
    ⟨_, rfl, by decide +kernel⟩
  exact ⟨chart, hchart, covers_of_recommend hchart, hlabels, by decide +kernel⟩

end Report

end AskTable

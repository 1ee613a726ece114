import AskTable.Proofs.Plans
import AskTable.Proofs.Rows
import AskTable.Report.Envelope

/-!
# The parts of an envelope agree

The summary, the insights, the chart and the envelope itself each look at the rows on their own, and
each looks for columns and numbers again. Here they are all compared with the rows.

* `width`, `numericCells`, `namesDates`: what the first row tells.
* `length_numericColumns`: the numeric columns are as many as the numeric cells of the first row.
* `member?_qualityDocument`, `recommend_eq_ok`, `configuration_eq`: the quality of the rows, their
  chart and how it is drawn.
* `meanFigure`: the figure of a column that is drawn.
* `Envelope.Agrees`: all that should agree; `analyze_agrees`: it does, for every result.
-/

namespace AskTable

open AskTable.Question

namespace Json

/-- The member of an object under a name. -/
def member? (name : String) : Json → Option Json
  | .fields members => Entries.find? id name members
  | _ => none

/-- The settings of a chart show these labels, with these points. -/
def Draws (settings : Json) (labels points : List Json) : Prop :=
  ∃ data series, settings.member? "data" = some data ∧ data.member? "labels" = some (.list labels) ∧
    data.member? "datasets" = some (.list [series]) ∧ series.member? "data" = some (.list points)

end Json

namespace Report

/-! ## The first row -/

/-- How many columns the first row has. -/
def width : List Row → Nat
  | [] => 0
  | first :: _ => first.entries.length

/-- How many cells of the first row look numeric. -/
def numericCells : List Row → Nat
  | [] => 0
  | first :: _ => first.cells.countP Cell.looksNumeric

/-- Does a label of the first row speak of dates? -/
def namesDates : List Row → Bool
  | [] => false
  | first :: _ => first.labels.any fun l => isDateLike l.text

theorem length_firstColumns (rows : List Row) : (firstColumns rows).length = width rows := by
  cases rows with
  | nil => rfl
  | cons first rows => simp [firstColumns, width, Row.labels]

/-- The numeric columns are as many as the numeric cells of the first row. -/
theorem length_numericColumns (rows : List Row) :
    (numericColumns rows (firstColumns rows)).length = numericCells rows := by
  cases rows with
  | nil => rfl
  | cons first rows =>
    have hcells : first.labels.countP (fun l => (first.get l).looksNumeric) =
        (first.labels.map first.get).countP Cell.looksNumeric := by
      rw [List.countP_map]
      rfl
    rw [Row.map_get_labels] at hcells
    rw [numericCells, ← hcells, List.countP_eq_length_filter]
    rfl

theorem numericColumns_isEmpty (rows : List Row) :
    (numericColumns rows (firstColumns rows)).isEmpty = true ↔ numericCells rows = 0 := by
  rw [← length_numericColumns, List.isEmpty_iff, List.length_eq_zero_iff]

theorem hasNumbers_summarize (rows : List Row) :
    (summarize rows).hasNumbers = true ↔ 0 < numericCells rows := by
  rw [Nat.pos_iff_ne_zero, ne_eq, ← numericColumns_isEmpty]
  simp [summarize]

theorem hasDates_summarize (rows : List Row) : (summarize rows).hasDates = namesDates rows := by
  cases rows with
  | nil => rfl
  | cons first rows =>
    rw [Bool.eq_iff_iff]
    simp [summarize, dateColumns, firstColumns, namesDates]

/-! ## Quality -/

/-- The quality of rows is that of the first hundred; of no rows there is none. -/
theorem assess_eq_ok {rows : List Row} {quality : Option Quality}
    (h : Quality.assess rows = .ok quality) :
    rows = [] ∧ quality = none ∨
      rows ≠ [] ∧ ∃ q, quality = some q ∧ q.sampleSize = min sampleRows rows.length ∧
        q.columnCount = width rows := by
  cases rows with
  | nil =>
    cases h
    exact Or.inl ⟨rfl, rfl⟩
  | cons first rows =>
    obtain ⟨filled, -, h⟩ := bind_eq_ok.mp h
    obtain ⟨varied, -, h⟩ := bind_eq_ok.mp h
    obtain ⟨unique, -, h⟩ := bind_eq_ok.mp h
    cases h
    exact Or.inr ⟨List.cons_ne_nil _ _, _, rfl, List.length_take, length_firstColumns _⟩

/-- What the quality of rows is written as: an error without rows, else their sample. -/
theorem member?_qualityDocument {rows : List Row} {quality : Option Quality}
    (h : Quality.assess rows = .ok quality) :
    ((qualityDocument quality).member? "status" = some (.text "error") ↔ rows = []) ∧
      (qualityDocument quality).member? "sample_size" =
        (if rows.isEmpty then none else some (.int (min 100 rows.length))) ∧
      (qualityDocument quality).member? "total_columns" =
        if rows.isEmpty then none else some (.int (width rows)) := by
  rcases assess_eq_ok h with ⟨rfl, rfl⟩ | ⟨hrows, q, rfl, hsample, hcolumns⟩
  · exact ⟨iff_of_true rfl rfl, rfl, rfl⟩
  · have hmin : ((min sampleRows rows.length : Nat) : Int) = min 100 (rows.length : Int) := by
      simp only [sampleRows]
      omega
    refine ⟨iff_of_false ?_ hrows, ?_, ?_⟩
    · simp [qualityDocument, Json.member?, Entries.find?]
    · simp [qualityDocument, Json.member?, Entries.find?, hsample, hmin, hrows]
    · simp [qualityDocument, Json.member?, Entries.find?, hcolumns, hrows]

/-! ## Remarks -/

/-- What is found in a result with numbers. -/
def numericFinding : String := "Dataset contains numeric data suitable for statistical analysis"

/-- What is recommended for a result with numbers. -/
def chartingAdvice : String := "Consider creating charts to visualize numeric trends"

theorem mem_remark {holds : Bool} {text other : String} :
    text ∈ remark holds other ↔ holds = true ∧ text = other := by
  cases holds <;> simp [remark]

theorem ne_of_head? {s t : String} (h : s.toList.head? ≠ t.toList.head?) : s ≠ t :=
  fun heq => h (heq ▸ rfl)

/-- The other findings begin with other words. -/
theorem mem_keyFindings (s : Summary) : numericFinding ∈ keyFindings s ↔ s.hasNumbers = true := by
  have hdates : numericFinding ≠ "Date fields present - temporal analysis possible" := by decide
  have hlarge : numericFinding ≠ s!"Large dataset with {s.rowCount} records" :=
    ne_of_head? (by simp [numericFinding, ToString.toString, String.toList_append])
  have hwide : numericFinding ≠ s!"Multi-dimensional data with {s.columnCount} attributes" :=
    ne_of_head? (by simp [numericFinding, ToString.toString, String.toList_append])
  simp only [keyFindings, List.mem_append, mem_remark, hdates, hlarge, hwide, and_false, or_false]
  exact and_iff_left rfl

theorem mem_recommendations (s : Summary) :
    chartingAdvice ∈ recommendations s ↔ s.hasNumbers = true := by
  have hdates : chartingAdvice ≠ "Time-series analysis could reveal temporal patterns" := by decide
  have hlarge : chartingAdvice ≠ "Large dataset - consider sampling for quick analysis" := by decide
  simp only [recommendations, List.mem_append, mem_remark, hdates, hlarge, and_false, or_false]
  exact and_iff_left rfl

/-! ## Charts -/

/-- The mean among the figures of a column. -/
def meanFigure (figures : Figures) : Cell :=
  (figures.find? "avg").getD (.int 0)

/-- The chart that suits a result: a line for numbers over dates, bars for two numeric columns or
more, a pie for up to ten rows, and a table for everything else. -/
def suitable (s : Summary) (numeric count : Nat) : String :=
  if s.hasNumbers = true ∧ s.hasDates = true then "line"
  else if 2 ≤ numeric then "bar"
  else if 1 ≤ count ∧ count ≤ 10 then "pie"
  else "table"

theorem chooseCategory_eq (rows : List Row) :
    chooseCategory rows (firstColumns rows) =
      suitable (summarize rows) (numericCells rows) rows.length := by
  cases rows with
  | nil => rfl
  | cons first rows =>
    have hline : (!(dateColumns (firstColumns (first :: rows))).isEmpty &&
        !(numericColumns (first :: rows) (firstColumns (first :: rows))).isEmpty) = true ↔
          (summarize (first :: rows)).hasNumbers = true ∧
            (summarize (first :: rows)).hasDates = true := by
      rw [Bool.and_eq_true]
      exact and_comm
    have hpie : 1 ≤ (first :: rows).length ∧ (first :: rows).length ≤ 10 ↔
        (first :: rows).length ≤ pieRows :=
      and_iff_right (Nat.succ_pos _)
    rw [chooseCategory, suitable, length_numericColumns]
    simp only [List.isEmpty_cons, Bool.false_eq_true, if_false, hline, hpie]
    rfl

theorem nodup_measured {α : Type} {f : Label → Except Fault α} {columns : List Label}
    {figures : List (Label × α)} (h : measured f columns = .ok figures) :
    (Entries.keys Label.key figures).Nodup := by
  obtain ⟨pairs, -, hfigures⟩ := bind_eq_ok.mp h
  cases hfigures
  exact Entries.nodup_putAll pairs (by simp [Entries.keys])

theorem keys_given_sublist {α : Type} (entries : List (Label × Option α)) :
    (Entries.keys Label.key (given entries)).Sublist (Entries.keys Label.key entries) := by
  induction entries with
  | nil => exact .refl _
  | cons e entries ih =>
    rcases e with ⟨l, - | a⟩
    · exact ih.cons _
    · exact ih.cons_cons _

/-- A chart of rows shows figures exactly when there are numbers, each column once. -/
theorem recommend_eq_ok {rows : List Row} {chart : Chart}
    (h : recommend rows (firstColumns rows) = .ok chart) :
    chart.category = suitable (summarize rows) (numericCells rows) rows.length ∧
      (chart.kind = .aggregated ↔ 0 < numericCells rows) ∧
      (Entries.keys Label.key chart.statistics).Nodup := by
  rw [← chooseCategory_eq, Nat.pos_iff_ne_zero, ne_eq, ← numericColumns_isEmpty]
  simp only [recommend] at h
  split at h
  · rename_i hempty
    cases h
    exact ⟨rfl, by simp [hempty], by simp [Entries.keys]⟩
  · rename_i hempty
    obtain ⟨statistics, hstatistics, hchart⟩ := bind_eq_ok.mp h
    cases hchart
    obtain ⟨figures, hfigures, hgiven⟩ := bind_eq_ok.mp hstatistics
    cases hgiven
    exact ⟨rfl, by simp [hempty], (nodup_measured hfigures).sublist (keys_given_sublist figures)⟩

/-- The settings to draw a chart with, where its labels and figures can be written. A chart with
figures is drawn with one point for each of its columns, and no other has any data. -/
theorem configuration_eq {leaf : Cell → Except Fault Json} {chart : Chart}
    {labels points : List Json} (hlabels : chart.statistics.mapM (leaf ·.1.cell) = .ok labels)
    (hpoints : chart.statistics.mapM (fun f => leaf (meanFigure f.2)) = .ok points) :
    ∃ settings, chart.configuration leaf = .ok settings ∧
      ((settings.member? "data").isSome = true ↔ chart.kind = .aggregated) ∧
      (chart.kind = .aggregated → settings.Draws labels points) := by
  let start : List (String × Json) := [("type", .text chart.category), ("options", .fields
    [("responsive", .bool true), ("maintainAspectRatio", .bool false)])]
  unfold meanFigure at hpoints
  by_cases hkind : chart.kind = .aggregated
  · let series : Json := .fields [("label", .text "Data Values"), ("data", .list points)]
    let data : Json := .fields [("labels", .list labels), ("datasets", .list [series])]
    have hsettings : chart.configuration leaf = .ok (.fields (start ++ [("data", data)])) := by
      simp only [Chart.configuration, hkind, hlabels, hpoints]
      rfl
    exact ⟨_, hsettings, iff_of_true rfl hkind, fun _ => ⟨data, series, rfl, rfl, rfl, rfl⟩⟩
  · have hsettings : chart.configuration leaf = .ok (.fields start) := by
      simp only [Chart.configuration, bne_iff_ne.mpr hkind, if_true]
      rfl
    exact ⟨_, hsettings, iff_of_false nofun hkind, fun h => absurd h hkind⟩

/-! ## Envelopes -/

/-- All parts of an envelope agree with the rows and with each other. -/
structure Envelope.Agrees (e : Envelope) (rows : List Row) : Prop where
  fullCount : e.fullCount = rows.length
  rowCount : e.summary.rowCount = rows.length
  /-- Up to ten rows are shown, in their order. -/
  preview : e.preview = rows.take 10 ∧ e.preview.length = min 10 rows.length
  columnCount : e.summary.columnCount = width rows
  columnNames : e.summary.columnNames.length = width rows
  status : (qualityDocument e.insights.quality).member? "status" = some (.text "error") ↔ rows = []
  /-- Without rows there is nothing to tell of a sample. -/
  sampleSize : (qualityDocument e.insights.quality).member? "sample_size" =
    if rows.isEmpty then none else some (.int (min 100 rows.length))
  totalColumns : (qualityDocument e.insights.quality).member? "total_columns" =
    if rows.isEmpty then none else some (.int (width rows))
  numbers : e.summary.hasNumbers = true ↔ 0 < numericCells rows
  dates : e.summary.hasDates = namesDates rows
  kind : e.summary.hasNumbers = true ↔ e.chart.kind = .aggregated
  finding : e.summary.hasNumbers = true ↔ numericFinding ∈ e.insights.findings
  advice : e.summary.hasNumbers = true ↔ chartingAdvice ∈ e.insights.recommendations
  category : e.chart.category = suitable e.summary (numericCells rows) rows.length
  /-- Each column has its figures once. -/
  figures : (Entries.keys Label.key e.chart.statistics).Nodup
  /-- However labels and figures are written, the chart is drawn with one point, the mean, for each
  column with figures. -/
  drawn : ∀ (leaf : Cell → Except Fault Json) (labels points : List Json),
    e.chart.statistics.mapM (leaf ·.1.cell) = .ok labels →
    e.chart.statistics.mapM (fun f => leaf (meanFigure f.2)) = .ok points →
    ∃ settings, e.chart.configuration leaf = .ok settings ∧
      (e.summary.hasNumbers = true ↔ (settings.member? "data").isSome = true) ∧
      (e.summary.hasNumbers = true → settings.Draws labels points)

theorem compose_eq_ok {time source : String} {question statement : Cell} {rows : List Row}
    {e : Envelope} (h : compose time question statement rows source = .ok e) :
    e.fullCount = rows.length ∧ e.preview = rows.take previewRows ∧ e.summary = summarize rows ∧
      profile rows (summarize rows) = .ok e.insights ∧
      recommend rows (firstColumns rows) = .ok e.chart := by
  obtain ⟨insights, hinsights, h⟩ := bind_eq_ok.mp h
  obtain ⟨chart, hchart, h⟩ := bind_eq_ok.mp h
  obtain ⟨complexity, -, h⟩ := bind_eq_ok.mp h
  cases h
  exact ⟨rfl, rfl, rfl, hinsights, hchart⟩

/-- What is analysed is composed; only the faults are told in other words. -/
theorem compose_of_analyze {time source : String} {question statement : Cell} {rows : List Row}
    {e : Envelope} (h : analyze time question statement rows source = .ok e) :
    compose time question statement rows source = .ok e := by
  unfold analyze at h
  split at h
  · rename_i heq
    cases h
    exact heq
  · cases h

/-- **The parts of an envelope agree,** whatever the rows are. -/
theorem analyze_agrees {time source : String} {question statement : Cell} {rows : List Row}
    {e : Envelope} (h : analyze time question statement rows source = .ok e) : e.Agrees rows := by
  obtain ⟨hcount, hpreview, hsummary, hinsights, hchart⟩ := compose_eq_ok (compose_of_analyze h)
  obtain ⟨quality, hquality, hprofile⟩ := bind_eq_ok.mp hinsights
  obtain ⟨hcategory, hkind, hfigures⟩ := recommend_eq_ok hchart
  have hnumbers : e.summary.hasNumbers = true ↔ 0 < numericCells rows := by
    rw [hsummary]
    exact hasNumbers_summarize rows
  have hinsights : e.insights =
      ⟨quality, keyFindings (summarize rows), recommendations (summarize rows)⟩ :=
    (Except.ok.inj hprofile).symm
  obtain ⟨hstatus, hsample, hcolumns⟩ := member?_qualityDocument hquality
  refine
    { fullCount := hcount
      rowCount := by rw [hsummary]; rfl
      preview := ⟨hpreview, by rw [hpreview]; exact List.length_take⟩
      columnCount := by rw [hsummary]; exact length_firstColumns rows
      columnNames := ?_
      status := by rw [hinsights]; exact hstatus
      sampleSize := by rw [hinsights]; exact hsample
      totalColumns := by rw [hinsights]; exact hcolumns
      numbers := hnumbers
      dates := by rw [hsummary]; exact hasDates_summarize rows
      kind := hnumbers.trans hkind.symm
      finding := by rw [hinsights, hsummary]; exact (mem_keyFindings _).symm
      advice := by rw [hinsights, hsummary]; exact (mem_recommendations _).symm
      category := by rw [hcategory, hsummary]
      figures := hfigures
      drawn := fun leaf labels points hlabels hpoints => ?_ }
  · rw [hsummary, ← length_firstColumns]
    exact List.length_map _
  · have hchartkind := hnumbers.trans hkind.symm
    obtain ⟨settings, hsettings, hdata, hdraws⟩ := configuration_eq hlabels hpoints
    exact ⟨settings, hsettings, hchartkind.trans hdata.symm, fun h => hdraws (hchartkind.mp h)⟩

/-- The sales of two days; the second row has no day and counts in words. -/
def salesRows : List Row :=
  [Row.ofList [(.ofText "order_date", .text "May 1"), (.ofText "sold", .text "3")],
    Row.ofList [(.ofText "sold", .text "none")]]

/-- The envelope of the two rows agrees with the first of them: a line with one point. -/
theorem analyze_agrees_salesRows :
    ∃ e, analyze "" (.text "sales") (.text "SELECT * FROM T") salesRows localSource = .ok e ∧
      e.Agrees salesRows ∧ e.fullCount = 2 ∧ e.chart.category = "line" ∧
      e.chart.statistics.map (·.1.text) = ["sold"] := by
  obtain ⟨e, he, hcategory, hstatistics⟩ : ∃ e,
      analyze "" (.text "sales") (.text "SELECT * FROM T") salesRows localSource = .ok e ∧
        e.chart.category = "line" ∧ e.chart.statistics.map (·.1.text) = ["sold"] :=
    ⟨_, rfl, by decide +kernel, by decide +kernel⟩
  have hagrees := analyze_agrees he
  exact ⟨e, he, hagrees, hagrees.fullCount, hcategory, hstatistics⟩

end Report

end AskTable

import AskTable.Proofs.Agreement

/-!
# Rows outside the sample

An analysis looks at a result in three ways: it counts the rows, it measures the first hundred, and
it reads the numbers in the columns that the first row tells numeric. Nothing else of the rows
matters, and what is shown of them are the first ten.

* `readings`: what the cells of a column read as; `SameSight`: two results look alike.
* `summarize_congr`, `assess_congr`, `aggregate_congr`, `recommend_congr`: what each part of an
  analysis looks at.
* `Envelope.outline`: an envelope without the measures of its sample and the figures of its chart;
  `outline_eq`: it is told by the first ten rows and the count.
* `analyze_same_sight`: results that look alike have the same envelope, or the same error, and what
  rows may tell in which part of it.
-/

namespace AskTable.Report

open AskTable.Number AskTable.Question

/-! ## What is looked at -/

/-- What the cells of a column read as, in row order, faults included. -/
def readings (rows : List Row) (label : Label) : List (Except Fault (Option Binary64)) :=
  (column rows label).map Cell.number?

/-- The columns of the first row that it tells numeric. -/
def numericLabels (rows : List Row) : List Label := numericColumns rows (firstColumns rows)

/-- Two results look alike: they are equally long, begin with the same hundred rows, and have the
same numbers in every numeric column. -/
structure SameSight (rows rows' : List Row) : Prop where
  length : rows.length = rows'.length
  sample : rows.take 100 = rows'.take 100
  numbers : ∀ label ∈ numericLabels rows, readings rows label = readings rows' label

variable {rows rows' : List Row}

theorem head?_eq_of_take {count : Nat} (hcount : 0 < count)
    (h : rows.take count = rows'.take count) : rows.head? = rows'.head? := by
  have hfront (rs : List Row) : (rs.take count).head? = rs.head? := by
    rw [List.head?_take, if_neg (Nat.pos_iff_ne_zero.mp hcount)]
  rw [← hfront rows, h, hfront]

theorem isEmpty_eq_of_head? (h : rows.head? = rows'.head?) : rows.isEmpty = rows'.isEmpty := by
  rw [Bool.eq_iff_iff, List.isEmpty_iff, List.isEmpty_iff, ← List.head?_eq_none_iff, h,
    List.head?_eq_none_iff]

theorem firstColumns_congr (h : rows.head? = rows'.head?) :
    firstColumns rows = firstColumns rows' := by
  rw [firstColumns, h, firstColumns]

theorem numericColumns_congr (h : rows.head? = rows'.head?) (columns : List Label) :
    numericColumns rows columns = numericColumns rows' columns := by
  cases rows <;> cases rows' <;> cases h <;> rfl

/-! ## The parts of an analysis -/

/-- A summary looks at the first row and the count. -/
theorem summarize_congr (h : rows.head? = rows'.head?) (hlength : rows.length = rows'.length) :
    summarize rows = summarize rows' := by
  simp only [summarize, firstColumns_congr h, numericColumns_congr h, hlength]

/-- The quality of a result is that of its first hundred rows. -/
theorem assess_congr (h : rows.take 100 = rows'.take 100) :
    Quality.assess rows = Quality.assess rows' := by
  have hhead := head?_eq_of_take (by decide) h
  have hsample : rows.take sampleRows = rows'.take sampleRows := h
  simp only [Quality.assess, isEmpty_eq_of_head? hhead, hsample, firstColumns_congr hhead]

theorem mapM_congr {ε α β : Type} {f g : α → Except ε β} {as : List α}
    (h : ∀ a ∈ as, f a = g a) : as.mapM f = as.mapM g := by
  induction as with
  | nil => rfl
  | cons a as ih =>
    rw [List.mapM_cons, List.mapM_cons, h a List.mem_cons_self,
      ih fun b hb => h b (List.mem_cons_of_mem _ hb)]

theorem measured_congr {α : Type} {f g : Label → Except Fault α} {columns : List Label}
    (h : ∀ label ∈ columns, f label = g label) : measured f columns = measured g columns := by
  have hpairs : columns.mapM (fun l => return (l, ← f l)) =
      columns.mapM (fun l => return (l, ← g l)) :=
    mapM_congr fun l hl => by rw [h l hl]
  rw [measured, hpairs, measured]

theorem columnNumbers_eq (rows : List Row) (label : Label) :
    columnNumbers rows label = return (← (readings rows label).mapM id).filterMap id := by
  rw [columnNumbers, readings, List.mapM_map]
  rfl

/-- The figures of columns are those of the numbers in them. -/
theorem aggregate_congr {columns : List Label}
    (h : ∀ label ∈ columns, readings rows label = readings rows' label) :
    aggregate rows columns = aggregate rows' columns := by
  have hfigures : ∀ label ∈ columns, figures? rows label = figures? rows' label := by
    intro label hlabel
    rw [figures?, columnNumbers_eq, h label hlabel, ← columnNumbers_eq, figures?]
  rw [aggregate, measured_congr hfigures, aggregate]

theorem chooseCategory_congr (h : rows.head? = rows'.head?)
    (hlength : rows.length = rows'.length) (columns : List Label) :
    chooseCategory rows columns = chooseCategory rows' columns := by
  simp only [chooseCategory, numericColumns_congr h, isEmpty_eq_of_head? h, hlength]

/-- A chart looks at the first row, the count and the numbers in numeric columns. -/
theorem recommend_congr (h : rows.head? = rows'.head?) (hlength : rows.length = rows'.length)
    (hnumbers : ∀ label ∈ numericLabels rows, readings rows label = readings rows' label) :
    recommend rows (firstColumns rows) = recommend rows' (firstColumns rows') := by
  have haggregate := aggregate_congr hnumbers
  rw [numericLabels, numericColumns_congr h, firstColumns_congr h] at haggregate
  simp only [recommend, haggregate, chooseCategory_congr h hlength, numericColumns_congr h,
    firstColumns_congr h, hlength]

/-- Results that look alike are composed alike. -/
theorem SameSight.compose_eq (h : SameSight rows rows') (time source : String)
    (question statement : Cell) :
    compose time question statement rows source = compose time question statement rows' source := by
  have hhead := head?_eq_of_take (by decide) h.sample
  have hshown : rows.take previewRows = rows'.take previewRows := by
    have hfront (rs : List Row) : (rs.take 100).take previewRows = rs.take previewRows := by
      rw [List.take_take]
      rfl
    rw [← hfront rows, h.sample, hfront]
  simp only [compose, profile, summarize_congr hhead h.length, assess_congr h.sample,
    recommend_congr hhead h.length h.numbers, hshown, h.length]

/-! ## Outlines -/

/-- The quality of a sample without its measures. -/
def Quality.outline (q : Quality) : Quality :=
  { q with completeness := [], consistency := [], uniqueness := [] }

/-- An envelope without the measures of its sample and the figures of its chart. -/
def Envelope.outline (e : Envelope) : Envelope :=
  { e with
    insights := { e.insights with quality := e.insights.quality.map Quality.outline }
    chart := { e.chart with statistics := [] } }

/-- Without its measures, the quality of a result tells the size of its sample and its columns. -/
theorem outline_assess {quality : Option Quality} (h : Quality.assess rows = .ok quality) :
    quality.map Quality.outline =
      if rows.isEmpty then none
      else some ⟨[], [], [], min 100 rows.length, (firstColumns rows).length⟩ := by
  rcases assess_eq_ok h with ⟨rfl, rfl⟩ | ⟨hrows, q, rfl, hsample, hcolumns⟩
  · rfl
  · rw [if_neg (by simpa using hrows), Option.map_some, Quality.outline, hsample, hcolumns,
      length_firstColumns]
    rfl

/-- Without its figures, a chart tells of the first row and the count. -/
theorem outline_recommend {columns : List Label} {chart : Chart}
    (h : recommend rows columns = .ok chart) :
    { chart with statistics := [] } =
      if (numericColumns rows columns).isEmpty then
        Chart.mk (chooseCategory rows columns) .summary
          (some s!"Found {rows.length} records with {columns.length} columns") []
      else ⟨chooseCategory rows columns, .aggregated, none, []⟩ := by
  simp only [recommend] at h
  split at h
  · rename_i hempty
    cases h
    rw [if_pos hempty]
  · rename_i hempty
    obtain ⟨statistics, -, hchart⟩ := bind_eq_ok.mp h
    cases hchart
    rw [if_neg hempty]

/-- The outline of an envelope is told by the first ten rows and the count. -/
theorem outline_eq {time source : String} {question statement : Cell} {e e' : Envelope}
    (h : compose time question statement rows source = .ok e)
    (h' : compose time question statement rows' source = .ok e')
    (hshown : rows.take 10 = rows'.take 10) (hlength : rows.length = rows'.length) :
    e.outline = e'.outline := by
  have hhead := head?_eq_of_take (by decide) hshown
  obtain ⟨insights, hinsights, h⟩ := bind_eq_ok.mp h
  obtain ⟨chart, hchart, h⟩ := bind_eq_ok.mp h
  obtain ⟨complexity, hcomplexity, h⟩ := bind_eq_ok.mp h
  obtain ⟨insights', hinsights', h'⟩ := bind_eq_ok.mp h'
  obtain ⟨chart', hchart', h'⟩ := bind_eq_ok.mp h'
  obtain ⟨complexity', hcomplexity', h'⟩ := bind_eq_ok.mp h'
  cases h
  cases h'
  cases hcomplexity.symm.trans hcomplexity'
  obtain ⟨quality, hquality, hprofile⟩ := bind_eq_ok.mp hinsights
  obtain ⟨quality', hquality', hprofile'⟩ := bind_eq_ok.mp hinsights'
  cases hprofile
  cases hprofile'
  have hpreview : rows.take previewRows = rows'.take previewRows := hshown
  simp only [Envelope.outline, outline_assess hquality, outline_assess hquality',
    outline_recommend hchart, outline_recommend hchart', summarize_congr hhead hlength,
    isEmpty_eq_of_head? hhead, firstColumns_congr hhead, numericColumns_congr hhead,
    chooseCategory_congr hhead hlength, hlength, hpreview]

/-! ## Analyses -/

theorem analyze_congr {time source : String} {question statement : Cell}
    (h : compose time question statement rows source =
      compose time question statement rows' source) :
    analyze time question statement rows source =
      analyze time question statement rows' source := by
  rw [analyze, h, analyze]

/-- The quality in an envelope is that of the rows. -/
theorem quality_of_compose {time source : String} {question statement : Cell} {e : Envelope}
    (h : compose time question statement rows source = .ok e) :
    Quality.assess rows = .ok e.insights.quality := by
  obtain ⟨-, -, -, hprofile, -⟩ := compose_eq_ok h
  obtain ⟨quality, hquality, hinsights⟩ := bind_eq_ok.mp hprofile
  rw [hquality, ← Except.ok.inj hinsights]

/-- The figures of a chart are those of the numeric columns; without one there are none. -/
theorem statistics_of_recommend {chart : Chart}
    (h : recommend rows (firstColumns rows) = .ok chart) :
    aggregate rows (numericLabels rows) = .ok chart.statistics := by
  simp only [recommend] at h
  split at h
  · rename_i hempty
    cases h
    rw [numericLabels, List.isEmpty_iff.mp hempty]
    rfl
  · obtain ⟨statistics, hstatistics, hchart⟩ := bind_eq_ok.mp h
    cases hchart
    exact hstatistics

/-- **Rows outside the sample only count.** Results that look alike have the same envelope, or the
same error. As for which rows may tell in which part of an envelope, the rows that are shown are
the first ten; these and the count tell all but the measures of the sample and the figures of the
chart; the measures are told by the first hundred, and the figures by the numbers in the numeric
columns. -/
theorem analyze_same_sight (time source : String) (question statement : Cell)
    (rows rows' : List Row) :
    (SameSight rows rows' → analyze time question statement rows source =
      analyze time question statement rows' source) ∧
    ∀ e e', analyze time question statement rows source = .ok e →
      analyze time question statement rows' source = .ok e' →
      (rows.take 10 = rows'.take 10 →
        e.preview = e'.preview ∧ (rows.length = rows'.length → e.outline = e'.outline)) ∧
      (rows.take 100 = rows'.take 100 → e.insights.quality = e'.insights.quality) ∧
      (numericLabels rows = numericLabels rows' →
        (∀ label ∈ numericLabels rows, readings rows label = readings rows' label) →
        e.chart.statistics = e'.chart.statistics) := by
  refine ⟨fun h => analyze_congr (h.compose_eq time source question statement), ?_⟩
  intro e e' he he'
  have hcompose := compose_of_analyze he
  have hcompose' := compose_of_analyze he'
  obtain ⟨-, hpreview, -, -, hchart⟩ := compose_eq_ok hcompose
  obtain ⟨-, hpreview', -, -, hchart'⟩ := compose_eq_ok hcompose'
  refine ⟨fun hshown => ⟨?_, outline_eq hcompose hcompose' hshown⟩, fun hsample => ?_,
    fun hlabels hnumbers => ?_⟩
  · rw [hpreview, hpreview']
    exact hshown
  · have hquality := assess_congr hsample
    rw [quality_of_compose hcompose, quality_of_compose hcompose'] at hquality
    exact Except.ok.inj hquality
  · have hfigures := aggregate_congr hnumbers
    rw [statistics_of_recommend hchart, hlabels, statistics_of_recommend hchart'] at hfigures
    exact Except.ok.inj hfigures

/-- A hundred parcels of the same weight, and one more. -/
def parcels (weight carrier : String) : List Row :=
  List.replicate 100
      (Row.ofList [(.ofText "weight", .text "3 kg"), (.ofText "carrier", .text "Ann")]) ++
    [Row.ofList [(.ofText "weight", .text weight), (.ofText "carrier", .text carrier)]]

/-- The analysis of the parcels. -/
def weighed (weight carrier : String) : Except AssistantError Envelope :=
  analyze "" (.text "weights") (.text "SELECT * FROM T") (parcels weight carrier) localSource

/-- The greatest figure of each numeric column, as it is written. -/
def greatestFigures (e : Envelope) : List (Option String) :=
  e.chart.statistics.map fun f => (f.2.find? "max").map Cell.plainText

theorem take_parcels (weight carrier : String) :
    (parcels weight carrier).take 100 = List.replicate 100
      (Row.ofList [(.ofText "weight", .text "3 kg"), (.ofText "carrier", .text "Ann")]) := by
  rw [parcels, List.take_left' List.length_replicate]

/-- Who carries the last parcel is not looked at, nor how its weight is written. -/
theorem sameSight_parcels {weight weight' : String} (carrier carrier' : String)
    (h : Cell.number? (.text weight) = Cell.number? (.text weight')) :
    SameSight (parcels weight carrier) (parcels weight' carrier') where
  length := by simp only [parcels, List.length_append, List.length_singleton]
  sample := by rw [take_parcels, take_parcels]
  numbers := by
    have hlabels : numericLabels (parcels weight carrier) = [.ofText "weight"] := by rfl
    have hlast : readings [Row.ofList [(.ofText "weight", .text weight),
          (.ofText "carrier", .text carrier)]] (.ofText "weight") =
        readings [Row.ofList [(.ofText "weight", .text weight'),
          (.ofText "carrier", .text carrier')]] (.ofText "weight") :=
      congrArg (fun n => [n]) h
    intro label hlabel
    rw [hlabels, List.mem_singleton] at hlabel
    subst hlabel
    rw [readings, column, parcels, List.map_append, List.map_append, ← column, ← column,
      ← readings, ← readings, hlast]
    simp only [readings, column, parcels, List.map_append]

theorem eq_of_toOption {ε α : Type} {x y : Except ε α} (hx : x.isOk = true)
    (h : x.toOption = y.toOption) : x = y := by
  obtain ⟨a, rfl⟩ := exists_of_isOk hx
  cases y with
  | ok b => exact congrArg Except.ok (Option.some.inj h)
  | error f => cases h

/-- The last of the parcels tells nothing but its weight: written otherwise, and carried by someone
else, it leaves all as it is, and with another weight it changes the figures alone. -/
theorem analyze_same_sight_parcels :
    (∃ e, weighed "4 kg" "Bob" = .ok e ∧ weighed "4.0" "Eve" = .ok e) ∧
    ∃ e e', weighed "4 kg" "Bob" = .ok e ∧ weighed "5 kg" "Eve" = .ok e' ∧
      e.preview = e'.preview ∧ e.outline = e'.outline ∧
      e.insights.quality = e'.insights.quality ∧ greatestFigures e ≠ greatestFigures e' := by
  obtain ⟨e, he⟩ : ∃ e, weighed "4 kg" "Bob" = .ok e := exists_of_isOk (by decide +kernel)
  obtain ⟨e', he'⟩ : ∃ e, weighed "5 kg" "Eve" = .ok e := exists_of_isOk (by decide +kernel)
  have hsame : SameSight (parcels "4 kg" "Bob") (parcels "4.0" "Eve") :=
    sameSight_parcels _ _ (eq_of_toOption (by decide +kernel) (by decide +kernel))
  have hsample : (parcels "4 kg" "Bob").take 100 = (parcels "5 kg" "Eve").take 100 := by
    rw [take_parcels, take_parcels]
  have halike := (analyze_same_sight "" localSource (.text "weights") (.text "SELECT * FROM T")
    _ _).1 hsame
  obtain ⟨hshown, hquality, -⟩ := (analyze_same_sight "" localSource (.text "weights")
    (.text "SELECT * FROM T") _ _).2 e e' he he'
  have hfigures : (weighed "4 kg" "Bob").toOption.map greatestFigures ≠
      (weighed "5 kg" "Eve").toOption.map greatestFigures := by decide +kernel
  rw [he, he'] at hfigures
  refine ⟨⟨e, he, halike.symm.trans he⟩, e, e', he, he', (hshown (by rfl)).1,
    (hshown (by rfl)).2 (by rfl), hquality hsample, ?_⟩
  intro h
  exact hfigures (congrArg some h)

end AskTable.Report

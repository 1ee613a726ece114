import AskTable.Proofs.Agreement
import AskTable.Proofs.PlainCells

/-!
# Strict envelopes

The figures of an envelope are finite and its names are distinct, so its document is strict as soon
as the values that are taken from the question and the result have strict documents.

* `isFinite_ofRatio`: a ratio that is not too large is a finite number; `isFinite_percent`,
  `Variety.isFinite_score` for the figures of quality.
* `isStrict_insights`: insights have a strict document.
* `isFigured_recommend`: the figures of a chart are numbers.
* `Envelope.values`: the values that an envelope takes over as they are.
* `document_strict_iff`: a cell, and the envelope of a result, has a strict document exactly when
  its values are convertible, as long as whole numbers in texts are not too long.
-/

namespace AskTable

open AskTable.Number AskTable.Question

namespace Number

/-! ## Finite ratios -/

theorem roundDiv_le (num den : Nat) : roundDiv num den ≤ num / den + 1 := by
  simp only [roundDiv]
  split
  · omega
  · split <;> omega

theorem twoTo_lastPlace_le (units : Nat) : twoTo (lastPlace units) ≤ units + 1 := by
  by_cases hzero : units = 0
  · rw [hzero]
    decide
  · have hle : 2 ^ lastPlace units ≤ 2 ^ units.log2 :=
      Nat.pow_le_pow_right (by decide) (Nat.sub_le _ _)
    have hlog : 2 ^ units.log2 ≤ units := Nat.log2_self_le hzero
    exact Nat.le_succ_of_le (Nat.le_trans hle hlog)

/-- Rounding at most doubles, up to a unit. -/
theorem roundUnits_le (num den : Nat) : roundUnits num den ≤ 2 * (num / den) + 1 := by
  have hplace := twoTo_lastPlace_le (num / den)
  simp only [roundUnits]
  generalize twoTo (lastPlace (num / den)) = place at hplace ⊢
  -- the last place is at most the units themselves, so one step up at most doubles them
  have hround := Nat.mul_le_mul_right place (roundDiv_le num (den * place))
  rw [← Nat.div_div_eq_div_mul, Nat.add_one_mul] at hround
  have hdiv := Nat.div_mul_le_self (num / den) place
  omega

/-- A ratio of at most a hundred is a finite number. -/
theorem isFinite_ofRatio (negative : Bool) {num den : Nat} (h : num ≤ 100 * den) :
    (Binary64.ofRatio negative num den).isFinite = true := by
  have hbound : 2 * (100 * unitsOfOne) + 1 ≤ maxUnits := by decide +kernel
  have hratio : num * unitsOfOne / den ≤ 100 * unitsOfOne := by
    refine Nat.div_le_of_le_mul ?_
    have hmul := Nat.mul_le_mul_right unitsOfOne h
    rwa [Nat.mul_comm 100 den, Nat.mul_assoc] at hmul
  have hunits : roundUnits (num * unitsOfOne) den ≤ maxUnits := by
    have hle := roundUnits_le (num * unitsOfOne) den
    omega
  rw [Binary64.ofRatio, Binary64.ofUnits, if_pos hunits]
  rfl

end Number

/-! ## How many cells differ -/

theorem length_eraseDups_le {α : Type} [BEq α] (as : List α) : as.eraseDups.length ≤ as.length := by
  induction hn : as.length using Nat.strongRecOn generalizing as with
  | ind n ih =>
    cases as with
    | nil => simp
    | cons a as =>
      have hfilter := List.length_filter_le (fun b => !b == a) as
      rw [List.length_cons] at hn
      have hrest := ih _ (by omega) (as.filter fun b => !b == a) rfl
      rw [List.eraseDups_cons, List.length_cons]
      omega

theorem countDistinct_le (ks : List Key) : countDistinct ks ≤ ks.length := by
  have hrest := length_eraseDups_le (ks.filter fun k => !isUnique k)
  have hsplit := List.length_eq_length_filter_add (l := ks) isUnique
  rw [countDistinct, List.countP_eq_length_filter]
  omega

theorem distinctCount_le {cells : List Cell} {n : Nat} (h : distinctCount cells = .ok n) :
    n ≤ cells.length := by
  obtain ⟨ks, hks, hn⟩ := bind_eq_ok.mp h
  cases hn
  rw [(mapM_eq_ok.mp hks).length_eq]
  exact countDistinct_le ks

namespace Report

/-! ## Quality -/

theorem isFinite_percent {part whole : Nat} (h : part ≤ whole) :
    (percent part whole).isFinite = true :=
  isFinite_ofRatio false (Nat.mul_le_mul_left 100 h)

theorem length_column (rows : List Row) (label : Label) :
    (column rows label).length = rows.length :=
  List.length_map _

theorem isFinite_completeness (sample : List Row) (label : Label) :
    (completeness sample label).isFinite = true := by
  refine isFinite_percent ?_
  rw [← length_column sample label]
  exact List.countP_le_length

theorem isFinite_uniqueness {sample : List Row} {label : Label} {x : Binary64}
    (h : uniqueness sample label = .ok x) : x.isFinite = true := by
  obtain ⟨n, hn, hx⟩ := bind_eq_ok.mp h
  cases hx
  refine isFinite_percent ?_
  rw [← length_column sample label]
  exact distinctCount_le hn

theorem Variety.isFinite_score {v : Variety} (h : v.distinct ≤ v.total) {x : Binary64}
    (hx : v.score = some x) : x.isFinite = true := by
  rw [score] at hx
  split at hx
  · cases hx
  · cases hx
    exact isFinite_ofRatio false (by omega)

theorem isStrict_consistency {sample : List Row} {label : Label} {v : Variety}
    (h : consistency sample label = .ok v) : v.document.IsStrict := by
  obtain ⟨n, hn, hv⟩ := bind_eq_ok.mp h
  cases hv
  have hle : (Variety.mk n (presentCells sample label).length).distinct ≤
    (Variety.mk n (presentCells sample label).length).total := distinctCount_le hn
  generalize Variety.mk n (presentCells sample label).length = v at hle
  have hscore : ((v.score.map .float).getD .null : Json).IsStrict := by
    cases hv : v.score with
    | none => simp
    | some x => simpa using v.isFinite_score hle hv
  simp [Variety.document, hscore]

/-- Each figure that is measured for some columns is the one of a column. -/
theorem exists_of_mem_measured {α : Type} {f : Label → Except Fault α} {columns : List Label}
    {figures : List (Label × α)} (h : measured f columns = .ok figures) {e : Label × α}
    (he : e ∈ figures) : ∃ l, f l = .ok e.2 := by
  obtain ⟨pairs, hpairs, hfigures⟩ := bind_eq_ok.mp h
  cases hfigures
  rcases Entries.value_mem_of_mem_putAll he with hm | hm
  · obtain ⟨p, hp, heq⟩ := List.mem_map.mp hm
    have hall : ∀ p ∈ pairs, ∃ l, f l = .ok p.2 := by
      refine (forall_mem_iff_of_forall₂ (p := fun _ => True) (mapM_eq_ok.mp hpairs)
        fun l _ p hlp => ?_).mpr fun _ _ => trivial
      obtain ⟨a, ha, hp⟩ := bind_eq_ok.mp hlp
      cases hp
      exact iff_of_true ⟨l, ha⟩ trivial
    exact heq ▸ hall p hp
  · cases hm

theorem isStrict_object {members : List (String × Json)} (h : ∀ m ∈ members, m.2.IsStrict) :
    (Json.object members).IsStrict := by
  rw [Json.isStrict_object_iff]
  intro m hm
  rcases Entries.value_mem_of_mem_putAll hm with hm | hm
  · obtain ⟨o, ho, heq⟩ := List.mem_map.mp hm
    exact heq ▸ h o ho
  · cases hm

/-- An object by columns is strict when the documents of the figures are. -/
theorem isStrict_byColumn {α : Type} {f : α → Json} {columns : List (Label × α)}
    (h : ∀ e ∈ columns, (f e.2).IsStrict) : (byColumn f columns).IsStrict := by
  refine isStrict_object fun m hm => ?_
  obtain ⟨e, he, rfl⟩ := List.mem_map.mp hm
  exact h e he

theorem isStrict_qualityDocument {rows : List Row} {q : Option Quality}
    (h : Quality.assess rows = .ok q) : (qualityDocument q).IsStrict := by
  unfold Quality.assess at h
  split at h
  · cases h
    simp [qualityDocument]
  · obtain ⟨filled, hfilled, h⟩ := bind_eq_ok.mp h
    obtain ⟨varied, hvaried, h⟩ := bind_eq_ok.mp h
    obtain ⟨unique, hunique, h⟩ := bind_eq_ok.mp h
    cases h
    have hcomplete : (byColumn .float filled).IsStrict := by
      refine isStrict_byColumn fun e he => ?_
      obtain ⟨l, hl⟩ := exists_of_mem_measured hfilled he
      exact .float (Except.ok.inj hl ▸ isFinite_completeness _ l)
    have hconsistent : (byColumn Variety.document varied).IsStrict := by
      refine isStrict_byColumn fun e he => ?_
      obtain ⟨l, hl⟩ := exists_of_mem_measured hvaried he
      exact isStrict_consistency hl
    have hunique : (byColumn .float unique).IsStrict := by
      refine isStrict_byColumn fun e he => ?_
      obtain ⟨l, hl⟩ := exists_of_mem_measured hunique he
      exact .float (isFinite_uniqueness hl)
    simp [qualityDocument, hcomplete, hconsistent, hunique]

/-- Insights have a strict document. -/
theorem isStrict_insights {rows : List Row} {summary : Summary} {i : Insights}
    (h : profile rows summary = .ok i) : i.document.IsStrict := by
  obtain ⟨q, hq, hi⟩ := bind_eq_ok.mp h
  cases hi
  simp [Insights.document, isStrict_qualityDocument hq]

theorem isStrict_summary (s : Summary) : s.document.IsStrict := by
  simp [Summary.document]

theorem isStrict_complexity (c : Statement.Complexity) : (Complexity.document c).IsStrict := by
  simp [Complexity.document]

/-! ## Charts -/

/-- A number that is no decimal. -/
def IsFigure (c : Cell) : Prop := (∃ x, c = .float x) ∨ ∃ n, c = .int n

theorem IsFigure.isConvertible {c : Cell} (h : IsFigure c) : c.IsConvertible := by
  rcases h with ⟨x, rfl⟩ | ⟨n, rfl⟩
  · have hstrict := Cell.isStrict_finiteOrNull x
    exact (Cell.strict_iff_isConvertible _).mp ⟨finiteOrNull x, rfl, hstrict, hstrict.plain_cell⟩
  · exact (Cell.strict_iff_isConvertible _).mp ⟨.int n, rfl, .int n, rfl⟩

/-- A chart is a sentence, or it shows figures of columns. -/
def Chart.IsFigured (c : Chart) : Prop :=
  c.kind = .summary ∧ c.statistics = [] ∨
    c.kind = .aggregated ∧ ∀ e ∈ c.statistics, ∀ f ∈ e.2, IsFigure f.2

theorem isFigure_of_figuresOf {xs : List Binary64} {figures : Figures}
    (h : figuresOf xs = some figures) : ∀ f ∈ figures, IsFigure f.2 := by
  cases xs with
  | nil => cases h
  | cons x xs =>
    cases h
    simp [IsFigure]

theorem isFigured_recommend {rows : List Row} {columns : List Label} {c : Chart}
    (h : recommend rows columns = .ok c) : c.IsFigured := by
  simp only [recommend] at h
  split at h
  · cases h
    exact Or.inl ⟨rfl, rfl⟩
  · obtain ⟨statistics, hstatistics, hc⟩ := bind_eq_ok.mp h
    cases hc
    obtain ⟨columns, hcolumns, hgiven⟩ := bind_eq_ok.mp hstatistics
    cases hgiven
    refine Or.inr ⟨rfl, fun e he => ?_⟩
    obtain ⟨m, hm, hvalue⟩ := List.mem_filterMap.mp he
    obtain ⟨figures, hfigures, rfl⟩ := Option.map_eq_some_iff.mp hvalue
    obtain ⟨l, hl⟩ := exists_of_mem_measured hcolumns hm
    obtain ⟨xs, -, hxs⟩ := bind_eq_ok.mp hl
    exact isFigure_of_figuresOf ((Except.ok.inj hxs).trans hfigures)

/-! ## Documents in stages -/

/-- There is a document, and it is strict. -/
def HasStrict (x : Except Fault Json) : Prop := ∃ j, x = .ok j ∧ j.IsStrict

theorem hasStrict_pure_iff {j : Json} : HasStrict (pure j) ↔ j.IsStrict := by
  constructor
  · rintro ⟨_, hj, hstrict⟩
    cases hj
    exact hstrict
  · exact fun h => ⟨j, rfl, h⟩

theorem hasStrict_bind_iff {α : Type} {x : Except Fault α} {f : α → Except Fault Json} :
    HasStrict (x >>= f) ↔ ∃ a, x = .ok a ∧ HasStrict (f a) := by
  simp only [HasStrict, bind_eq_ok]
  constructor
  · rintro ⟨j, ⟨a, ha, hj⟩, hstrict⟩
    exact ⟨a, ha, j, hj, hstrict⟩
  · rintro ⟨a, ha, j, hj, hstrict⟩
    exact ⟨j, ⟨a, ha, hj⟩, hstrict⟩

theorem hasStrict_plain_iff (c : Cell) : HasStrict c.plain ↔ c.IsConvertible := by
  rw [← Cell.strict_iff_isConvertible]
  constructor
  · rintro ⟨j, hj, hstrict⟩
    exact ⟨j, hj, hstrict, hstrict.plain_cell⟩
  · rintro ⟨j, hj, hstrict, -⟩
    exact ⟨j, hj, hstrict⟩

/-! ## Documents of charts -/

theorem exists_strict_labels_iff (c : Chart) :
    (∃ labels, c.statistics.mapM (fun e => e.1.cell.plain) = .ok labels ∧
        ∀ j ∈ labels, j.IsStrict) ↔
      ∀ e ∈ c.statistics, e.1.cell.IsConvertible := by
  rw [exists_mapM_forall_iff]
  exact forall₂_congr fun e _ => hasStrict_plain_iff e.1.cell

/-- Figures have a strict object. -/
theorem exists_strict_figures {f : Figures} (h : ∀ e ∈ f, IsFigure e.2) :
    ∃ members, f.mapM (fun e => do return (e.1, ← e.2.plain)) = Except.ok (ε := Fault) members ∧
      ∀ m ∈ members, m.2.IsStrict := by
  refine exists_mapM_forall_iff.mpr fun e he => ?_
  obtain ⟨j, hj, hstrict⟩ := (hasStrict_plain_iff e.2).mpr (h e he).isConvertible
  exact ⟨(e.1, j), bind_eq_ok.mpr ⟨j, hj, rfl⟩, hstrict⟩

/-- The data of a chart is strict exactly when the labels of its figures are convertible. -/
theorem hasStrict_data_iff {c : Chart} (h : c.IsFigured) :
    HasStrict (c.data Cell.plain) ↔ ∀ e ∈ c.statistics, e.1.cell.IsConvertible := by
  rcases h with ⟨hkind, hnone⟩ | ⟨hkind, hfigures⟩
  · have hmessage : (textOrNull c.message).IsStrict := by
      cases hm : c.message <;> simp [textOrNull]
    rw [hnone, Chart.data, hkind]
    exact iff_of_true ⟨_, rfl, by simp [hmessage]⟩ (by simp)
  · obtain ⟨statistics, hstatistics, hstrict⟩ :
        ∃ members, c.statistics.mapM (fun e => do
          return (e.1.text, Json.object (← e.2.mapM fun f => do return (f.1, ← f.2.plain)))) =
            Except.ok (ε := Fault) members ∧ ∀ m ∈ members, m.2.IsStrict := by
      refine exists_mapM_forall_iff.mpr fun e he => ?_
      obtain ⟨members, hmembers, hall⟩ := exists_strict_figures (hfigures e he)
      exact ⟨_, bind_eq_ok.mpr ⟨members, hmembers, rfl⟩, isStrict_object hall⟩
    have hobject := isStrict_object hstrict
    rw [← exists_strict_labels_iff]
    simp only [Chart.data, hkind, hasStrict_bind_iff, hstatistics, hasStrict_pure_iff]
    simp [hobject]

/-- The mean that a chart shows of some figures is a number. -/
theorem isFigure_find? {f : Figures} (h : ∀ e ∈ f, IsFigure e.2) (name : String) :
    IsFigure ((f.find? name).getD (.int 0)) := by
  cases hfind : f.find? name with
  | none => exact Or.inr ⟨0, rfl⟩
  | some c =>
    obtain ⟨e, he, rfl⟩ := List.mem_map.mp (Entries.mem_of_find? hfind)
    exact h e he

/-- The same holds of the settings to draw a chart with. -/
theorem hasStrict_configuration_iff {c : Chart} (h : c.IsFigured) :
    HasStrict (c.configuration Cell.plain) ↔ ∀ e ∈ c.statistics, e.1.cell.IsConvertible := by
  rcases h with ⟨hkind, hnone⟩ | ⟨hkind, hfigures⟩
  · rw [hnone, Chart.configuration, hkind]
    exact iff_of_true ⟨_, rfl, by simp⟩ (by simp)
  · obtain ⟨points, hpoints, hstrict⟩ :
        ∃ points, c.statistics.mapM (fun e => ((e.2.find? "avg").getD (.int 0)).plain) =
          .ok points ∧ ∀ j ∈ points, j.IsStrict :=
      exists_mapM_forall_iff.mpr fun e he =>
        (hasStrict_plain_iff _).mpr (isFigure_find? (hfigures e he) "avg").isConvertible
    rw [← exists_strict_labels_iff]
    simp only [Chart.configuration, hkind, bne_self_eq_false, Bool.false_eq_true, if_false,
      hasStrict_bind_iff, hpoints, hasStrict_pure_iff]
    simp +contextual [hstrict]

end Report

/-! ## Envelopes -/

/-- A row as a dictionary. -/
def Row.cell (r : Row) : Cell := .dict (r.entries.map fun e => (e.1.cell, e.2))

theorem Row.plain_eq (r : Row) : r.plain = r.cell.plain := by
  rw [Row.plain, Row.cell, Cell.plain, Cell.plainEntries_eq_mapM, List.mapM_map]
  rfl

namespace Report

/-- The values that an envelope takes over as they are: the question, the statement, the labels of
the figures and the rows that are shown. -/
def Envelope.values (e : Envelope) : List Cell :=
  e.question :: e.statement ::
    (e.chart.statistics.map (fun s => s.1.cell) ++ e.preview.map Row.cell)

/-- An envelope of a result has insights with a strict document and a chart with numbers. -/
theorem analyze_eq_ok {time source : String} {question statement : Cell} {rows : List Row}
    {e : Envelope} (h : analyze time question statement rows source = .ok e) :
    e.insights.document.IsStrict ∧ e.chart.IsFigured := by
  obtain ⟨-, -, -, hinsights, hchart⟩ := compose_eq_ok (compose_of_analyze h)
  exact ⟨isStrict_insights hinsights, isFigured_recommend hchart⟩

theorem exists_strict_preview_iff (rows : List Row) :
    (∃ preview, rows.mapM Row.plain = .ok preview ∧ ∀ j ∈ preview, j.IsStrict) ↔
      ∀ r ∈ rows, r.cell.IsConvertible := by
  rw [exists_mapM_forall_iff]
  refine forall₂_congr fun r _ => ?_
  rw [Row.plain_eq]
  exact hasStrict_plain_iff r.cell

/-- With finite figures the document is strict exactly when the values are convertible. -/
theorem hasStrict_document_iff {e : Envelope} (hinsights : e.insights.document.IsStrict)
    (hchart : e.chart.IsFigured) :
    HasStrict e.document ↔ ∀ c ∈ e.values, c.IsConvertible := by
  have hvalues : (∀ c ∈ e.values, c.IsConvertible) ↔ e.question.IsConvertible ∧
      e.statement.IsConvertible ∧ (∀ s ∈ e.chart.statistics, s.1.cell.IsConvertible) ∧
      ∀ r ∈ e.preview, r.cell.IsConvertible := by
    simp only [Envelope.values, List.forall_mem_cons, List.forall_mem_append, List.forall_mem_map]
  rw [hvalues, ← hasStrict_plain_iff, ← hasStrict_plain_iff, ← exists_strict_preview_iff]
  constructor
  · intro h
    simp only [Envelope.document, hasStrict_bind_iff, hasStrict_pure_iff] at h
    obtain ⟨q, hq, s, hs, d, hd, c, -, p, hp, hstrict⟩ := h
    obtain ⟨⟨hqs, hss⟩, -, -, ⟨hds, -⟩, hps, -⟩ : (q.IsStrict ∧ s.IsStrict) ∧
        e.summary.document.IsStrict ∧ e.insights.document.IsStrict ∧
        (d.IsStrict ∧ c.IsStrict) ∧ (∀ j ∈ p, j.IsStrict) ∧
        (Complexity.document e.complexity).IsStrict := by simpa using hstrict
    exact ⟨⟨q, hq, hqs⟩, ⟨s, hs, hss⟩, (hasStrict_data_iff hchart).mp ⟨d, hd, hds⟩, p, hp, hps⟩
  · rintro ⟨⟨q, hq, hqs⟩, ⟨s, hs, hss⟩, hlabels, p, hp, hps⟩
    obtain ⟨d, hd, hds⟩ := (hasStrict_data_iff hchart).mpr hlabels
    obtain ⟨c, hc, hcs⟩ := (hasStrict_configuration_iff hchart).mpr hlabels
    simp only [Envelope.document, hasStrict_bind_iff, hasStrict_pure_iff]
    refine ⟨q, hq, s, hs, d, hd, c, hc, p, hp, ?_⟩
    simpa [hinsights, isStrict_summary, isStrict_complexity, hqs, hss, hds, hcs] using hps

/-- **Strict JSON.** A cell with writable keys is turned into a strict document, which is turned into
itself, exactly when every decimal that is read in it can be converted and those that are kept become
finite. The envelope of a writable result has such a document, whose text names no number that is not
one and no infinity with any layout, exactly when this holds of all values that the envelope takes
over. -/
theorem document_strict_iff (c : Cell) :
    (c.HasWritableKeys →
      ((∃ j, c.plain = .ok j ∧ j.IsStrict ∧ j.cell.plain = .ok j) ↔ c.IsConvertible)) ∧
    ∀ (time source : String) (question statement : Cell) (rows : List Row) (e : Envelope),
      question.IsWritable → statement.IsWritable → (∀ row ∈ rows, row.cell.IsWritable) →
      analyze time question statement rows source = .ok e →
      ((∃ j, e.document = .ok j ∧ j.IsStrict ∧ j.cell.plain = .ok j ∧
          ∀ step, Json.NamesNoSpecial (j.render step)) ↔ ∀ v ∈ e.values, v.IsConvertible) := by
  refine ⟨fun _ => c.strict_iff_isConvertible,
    fun time source question statement rows e _ _ _ h => ?_⟩
  obtain ⟨hinsights, hchart⟩ := analyze_eq_ok h
  rw [← hasStrict_document_iff hinsights hchart]
  constructor
  · rintro ⟨j, hj, hstrict, -, -⟩
    exact ⟨j, hj, hstrict⟩
  · rintro ⟨j, hj, hstrict⟩
    exact ⟨j, hj, hstrict, hstrict.plain_cell, hstrict.namesNoSpecial⟩

/-! ## Prices -/

/-- The decimal 1.50. -/
def price : Decimal := .finite false 150 (-2)

/-- A row with a price, beside a number that is not one. -/
def pricedRow : Row :=
  Row.ofList [(.ofText "count", .float .zero),
    (.ofText "prices", .list [.decimal price, .float .nan])]

theorem isConvertible_pricedRow : pricedRow.cell.IsConvertible := by
  have hfinite : (Binary64.ofScientific false 150 (-2)).isFinite = true := by decide +kernel
  refine (hasStrict_plain_iff _).mp ⟨.fields [("count", .float .zero),
    ("prices", .list [.float (.ofScientific false 150 (-2)), .null])], rfl, ?_⟩
  have hzero : Binary64.zero.isFinite = true := rfl
  simp [hfinite, hzero]

theorem isWritable_pricedRow : pricedRow.cell.IsWritable := by
  have hcell : pricedRow.cell = .dict [(.text "count", .float .zero),
      (.text "prices", .list [.decimal price, .float .nan])] := rfl
  rw [hcell]
  simp [Cell.isWritable_dict_iff, Cell.isWritable_list_iff]

/-- The number that is not one becomes null, and the decimal a finite number. -/
theorem document_pricedRow :
    pricedRow.cell.IsWritable ∧
    (∃ j, pricedRow.cell.plain = .ok j ∧ j.IsStrict ∧ j.cell.plain = .ok j) ∧
    ∃ e, analyze "" (.text "prices") (.text "SELECT * FROM T") [pricedRow] localSource = .ok e ∧
      e.values = [.text "prices", .text "SELECT * FROM T", .text "count", pricedRow.cell] ∧
      ∃ j, e.document = .ok j ∧ j.IsStrict ∧ Json.NamesNoSpecial (j.render (some 2)) := by
  obtain ⟨e, he, hvalues⟩ : ∃ e,
      analyze "" (.text "prices") (.text "SELECT * FROM T") [pricedRow] localSource = .ok e ∧
        e.values = [.text "prices", .text "SELECT * FROM T", .text "count", pricedRow.cell] :=
    ⟨_, rfl, rfl⟩
  obtain ⟨hcell, henvelope⟩ := document_strict_iff pricedRow.cell
  have htext (s : String) : (Cell.text s).IsConvertible :=
    (hasStrict_plain_iff _).mp ⟨.text s, rfl, .text s⟩
  have hall : ∀ c ∈ e.values, c.IsConvertible := by
    rw [hvalues]
    simp [htext, isConvertible_pricedRow]
  have hwritable : ∀ row ∈ [pricedRow], row.cell.IsWritable := by simp [isWritable_pricedRow]
  have hquestion := Cell.isWritable_text "prices"
  have hstatement := Cell.isWritable_text "SELECT * FROM T"
  obtain ⟨j, hj, hstrict, -, hnames⟩ :=
    (henvelope _ _ _ _ _ e hquestion hstatement hwritable he).mpr hall
  have hrow := (hcell isWritable_pricedRow.hasWritableKeys).mpr isConvertible_pricedRow
  exact ⟨isWritable_pricedRow, hrow, e, he, hvalues, j, hj, hstrict, hnames (some 2)⟩

/-- A row with a decimal that is not a number. -/
def unpricedRow : Row := Row.ofList [(.ofText "price", .decimal (.nan false false 0))]

/-- A decimal that is not a number is kept as such and written by name, also in an envelope, and a
signalling one has no document. -/
theorem document_unpricedRow :
    unpricedRow.plain = .ok (.fields [("price", .float .nan)]) ∧
      ¬ Json.NamesNoSpecial ((Json.fields [("price", .float .nan)]).render none) ∧
      (Cell.decimal (.nan false true 0)).plain = .error .signalling ∧
      ∃ e, analyze "" (.text "price") (.text "SELECT * FROM T") [unpricedRow] localSource = .ok e ∧
        ¬ HasStrict e.document := by
  have hnamed : "NaN".toList <:+:
      Json.unquoted ((Json.fields [("price", .float .nan)]).render none) := by
    decide +kernel
  have hplain : unpricedRow.cell.plain = .ok (.fields [("price", .float .nan)]) := rfl
  obtain ⟨e, he, hpreview⟩ : ∃ e,
      analyze "" (.text "price") (.text "SELECT * FROM T") [unpricedRow] localSource = .ok e ∧
        e.preview = [unpricedRow] := ⟨_, rfl, rfl⟩
  refine ⟨rfl, fun h => h "NaN" List.mem_cons_self hnamed, rfl, e, he, fun h => ?_⟩
  obtain ⟨hinsights, hchart⟩ := analyze_eq_ok he
  have hrow : unpricedRow.cell ∈ e.values := by simp [Envelope.values, hpreview]
  have hconvertible := (hasStrict_document_iff hinsights hchart).mp h _ hrow
  obtain ⟨j, hj, hstrict⟩ := (hasStrict_plain_iff _).mpr hconvertible
  cases hplain.symm.trans hj
  simp [Binary64.isFinite] at hstrict

end Report

end AskTable

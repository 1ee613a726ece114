import AskTable.Proofs.DistinctCounts
import AskTable.Proofs.SkippedValues

/-!
# The measures of a column

The three measures of a column are taken apart from one another, and each has a view of its own on
cells that are missing. They tell of one column all the same: the cells of the sample are missing,
blank or filled, the present ones are the other two, and missing cells are one value more.

* `missing`, `blanks`: how many rows of a sample have nothing in a column, how many blank text.
* `Binary64.IsAtMost`: a number from zero to a whole number; `isAtMost_ofRatio`: rounding a ratio
  does not lead out of there.
* `Measures`: what the measures of a column are, one by the other.
* `measures_of_assess`: the columns of the first row have these measures.
-/

namespace AskTable

open AskTable.Number AskTable.Question

namespace Number

/-! ## Ratios in bounds -/

theorem roundDiv_le_of_le {num den k : Nat} (hden : 0 < den) (h : num ≤ k * den) :
    roundDiv num den ≤ k := by
  have hquotient : num / den ≤ k := Nat.div_le_of_le_mul (Nat.mul_comm k den ▸ h)
  rcases Nat.lt_or_eq_of_le hquotient with hlt | rfl
  · have hle := roundDiv_le num den
    omega
  · have hexact : num % den = 0 := by
      have hsplit := Nat.div_add_mod' num den
      omega
    simp [roundDiv, hexact, hden]

/-- Rounding does not exceed a number of units that is a multiple of the last place. -/
theorem roundUnits_le_of_le {num den k : Nat} (hden : 0 < den) (h : num ≤ k * den)
    (hplace : twoTo (lastPlace (num / den)) ∣ k) : roundUnits num den ≤ k := by
  obtain ⟨m, rfl⟩ := hplace
  have hpos := twoTo_pos (lastPlace (num / den))
  simp only [roundUnits]
  generalize twoTo (lastPlace (num / den)) = place at h hpos ⊢
  have hround : roundDiv num (den * place) ≤ m := by
    refine roundDiv_le_of_le (Nat.mul_pos hden hpos) ?_
    rwa [Nat.mul_comm den, ← Nat.mul_assoc, Nat.mul_comm m]
  rw [Nat.mul_comm place]
  exact Nat.mul_le_mul_right place hround

theorem twoTo_le_twoTo {m n : Nat} (h : m ≤ n) : twoTo m ≤ twoTo n :=
  Nat.pow_le_pow_right (by decide) h

theorem twoTo_dvd_twoTo {m n : Nat} (h : m ≤ n) : twoTo m ∣ twoTo n := Nat.pow_dvd_pow 2 h

/-- A last place above that of one stands for much more than a hundred. -/
theorem lastPlace_le_of_le {units : Nat} (h : units ≤ 100 * unitsOfOne) :
    lastPlace units ≤ 1074 := by
  by_contra hgt
  have hpos : 0 < lastPlace units := by omega
  have hlower := twoTo_lastPlace_le_of_pos hpos
  have hpower : twoTo 1074 ≤ twoTo (lastPlace units) := twoTo_le_twoTo (by omega)
  have hbound : 100 * unitsOfOne < twoTo 52 * twoTo 1074 := by decide +kernel
  have hupper : twoTo 52 * twoTo 1074 ≤ 100 * unitsOfOne :=
    Nat.le_trans (Nat.mul_le_mul_left _ hpower) (Nat.le_trans hlower h)
  exact Nat.not_lt.mpr hupper hbound

theorem twoTo_lastPlace_dvd {units : Nat} (h : units ≤ 100 * unitsOfOne) :
    twoTo (lastPlace units) ∣ unitsOfOne := by
  have hplace := lastPlace_le_of_le h
  rw [unitsOfOne]
  exact twoTo_dvd_twoTo hplace

/-- A number from zero to a whole number. -/
def Binary64.IsAtMost (m : Nat) (x : Binary64) : Prop :=
  ∃ units, x = .finite false units ∧ units ≤ m * unitsOfOne

/-- A ratio of at most a hundred does not exceed it when it is rounded. -/
theorem Binary64.isAtMost_ofRatio {m num den : Nat} (hm : m ≤ 100) (hden : 0 < den)
    (h : num ≤ m * den) : (ofRatio false num den).IsAtMost m := by
  have hscaled : num * unitsOfOne ≤ m * unitsOfOne * den := by
    rw [Nat.mul_right_comm]
    exact Nat.mul_le_mul_right unitsOfOne h
  have hratio : num * unitsOfOne / den ≤ m * unitsOfOne := by
    refine Nat.div_le_of_le_mul ?_
    rwa [Nat.mul_comm den]
  have hcount : m * unitsOfOne ≤ 100 * unitsOfOne := Nat.mul_le_mul_right unitsOfOne hm
  have hplace := Nat.dvd_mul_left_of_dvd (twoTo_lastPlace_dvd (Nat.le_trans hratio hcount)) m
  have hunits := roundUnits_le_of_le hden hscaled hplace
  have hmax : 100 * unitsOfOne ≤ maxUnits := by decide +kernel
  have hfinite := Nat.le_trans hunits (Nat.le_trans hcount hmax)
  exact ⟨_, by rw [ofRatio, ofUnits, if_pos hfinite], hunits⟩

end Number

namespace Report

/-! ## Missing and blank cells -/

/-- How many rows have nothing in a column, or no such column. -/
def missing (sample : List Row) (label : Label) : Nat :=
  sample.countP fun r => (r.get? label).all Cell.isNull

/-- How many rows have a value in a column whose text is blank. -/
def blanks (sample : List Row) (label : Label) : Nat :=
  sample.countP fun r => (r.get? label).any fun c => !c.isNull && Text.allBlank c.plainText

variable (sample : List Row) (label : Label)

theorem isNull_get (r : Row) : (r.get label).isNull = (r.get? label).all Cell.isNull := by
  rw [Row.get]
  cases r.get? label <;> rfl

theorem length_presentCells :
    (presentCells sample label).length + missing sample label = sample.length := by
  have hsplit := sample.length_eq_countP_add_countP (fun r => (r.get? label).all Cell.isNull)
  rw [presentCells, column, List.filter_map, List.length_map, ← List.countP_eq_length_filter,
    missing, Nat.add_comm, hsplit]
  congr 2
  funext r
  simp [isNull_get]

theorem any_isNull_column :
    (column sample label).any Cell.isNull = true ↔ 0 < missing sample label := by
  simp [missing, column, List.countP_pos_iff, isNull_get]

theorem countP_blank_presentCells :
    (presentCells sample label).countP (fun c => Text.allBlank c.plainText) =
      blanks sample label := by
  rw [presentCells, List.countP_filter, column, List.countP_map, blanks]
  congr 1
  funext r
  rw [Function.comp_apply, Row.get]
  cases r.get? label with
  | none => exact Bool.and_false _
  | some c => exact Bool.and_comm _ _

theorem countP_isFilled_column :
    (column sample label).countP isFilled + blanks sample label =
      (presentCells sample label).length := by
  have hsplit := (presentCells sample label).length_eq_countP_add_countP
    fun c => Text.allBlank c.plainText
  have hfilled : (column sample label).countP isFilled =
      (presentCells sample label).countP (fun c => !Text.allBlank c.plainText) := by
    rw [presentCells, List.countP_filter]
    congr 1
    funext c
    exact Bool.and_comm _ _
  rw [hsplit, hfilled, countP_blank_presentCells, Nat.add_comm]
  simp

/-! ## The measures of one column -/

/-- What the measures of a column of a sample are, one by the other. -/
structure Measures (filled : Binary64) (varied : Variety) (unique : Binary64) : Prop where
  total_add_missing : varied.total + missing sample label = sample.length
  distinct_le_total : varied.distinct ≤ varied.total
  distinct_pos : 0 < varied.total → 0 < varied.distinct
  score_eq_none : varied.score = none ↔ varied.total = 0
  score_eq_ratio : 0 < varied.total →
    varied.score = some (.ofRatio false varied.distinct varied.total)
  unique_eq : unique = .ofRatio false
    (100 * (varied.distinct + if 0 < missing sample label then 1 else 0)) sample.length
  blanks_le_total : blanks sample label ≤ varied.total
  filled_eq : filled = .ofRatio false
    (100 * (varied.total - blanks sample label)) sample.length
  unique_range : unique.IsAtMost 100
  filled_range : filled.IsAtMost 100

theorem isAtMost_percent {part whole : Nat} (hwhole : 0 < whole) (h : part ≤ whole) :
    (percent part whole).IsAtMost 100 :=
  Binary64.isAtMost_ofRatio (Nat.le_refl _) hwhole (Nat.mul_le_mul_left _ h)

/-- The measures of a column of some rows, where they can be taken. -/
theorem measures_of_eq_ok (hsample : sample ≠ []) {varied : Variety} {unique : Binary64}
    (hvaried : consistency sample label = .ok varied)
    (hunique : uniqueness sample label = .ok unique) :
    Measures sample label (completeness sample label) varied unique := by
  obtain ⟨distinct, hdistinct, hvaried⟩ := bind_eq_ok.mp hvaried
  cases hvaried
  obtain ⟨all, hall, hunique⟩ := bind_eq_ok.mp hunique
  cases hunique
  obtain ⟨present, hpresent, hall⟩ := distinctCount_present hall
  obtain rfl : present = distinct := Except.ok.inj (hpresent.symm.trans hdistinct)
  have htotal := length_presentCells sample label
  have hfilled := countP_isFilled_column sample label
  have hpositive : 0 < sample.length := List.length_pos_of_ne_nil hsample
  have hmissing : (if (column sample label).any Cell.isNull then 1 else 0) =
      if 0 < missing sample label then 1 else 0 :=
    if_congr (any_isNull_column sample label) rfl rfl
  have hle : present ≤ (presentCells sample label).length := distinctCount_le hdistinct
  rw [hmissing] at hall
  have hfew : present + (if 0 < missing sample label then 1 else 0) ≤ sample.length := by
    split <;> omega
  exact {
    total_add_missing := htotal
    distinct_le_total := hle
    distinct_pos := distinctCount_pos hdistinct
    score_eq_none := by simp [Variety.score]
    score_eq_ratio := fun hpos => by simp [Variety.score, Nat.ne_of_gt hpos]
    unique_eq := by rw [hall, percent]
    blanks_le_total := Nat.le.intro (Nat.add_comm _ _ ▸ hfilled)
    filled_eq := by rw [completeness, percent, ← hfilled, Nat.add_sub_cancel]
    unique_range := isAtMost_percent hpositive (hall ▸ hfew)
    filled_range := isAtMost_percent hpositive (by omega) }

/-- The figures of some columns, before they are put under the columns. -/
abbrev Paired {α : Type} (f : Label → Except Fault α) : List Label → List (Label × α) → Prop :=
  List.Forall₂ fun l p => p.1 = l ∧ f l = .ok p.2

section Figures

variable {α : Type} {f : Label → Except Fault α} {columns : List Label}

theorem Paired.labels_eq {pairs : List (Label × α)} (h : Paired f columns pairs) :
    pairs.map (·.1) = columns := by
  induction h with
  | nil => rfl
  | cons hlp _ ih => rw [List.map_cons, hlp.1, ih]

theorem Paired.keys_eq {pairs : List (Label × α)} (h : Paired f columns pairs) :
    Entries.keys Label.key pairs = columns.map Label.key := by
  rw [Entries.keys, ← h.labels_eq, List.map_map]
  rfl

theorem Paired.exists_mem {pairs : List (Label × α)} (h : Paired f columns pairs) {label : Label}
    (hlabel : label ∈ columns) : ∃ p ∈ pairs, p.1 = label ∧ f label = .ok p.2 := by
  induction h with
  | nil => cases hlabel
  | cons hlp _ ih =>
    rcases List.mem_cons.mp hlabel with rfl | hlabel
    · exact ⟨_, List.mem_cons_self, hlp⟩
    · obtain ⟨p, hp, hlp⟩ := ih hlabel
      exact ⟨p, List.mem_cons_of_mem _ hp, hlp⟩

theorem Paired.forall_mem {pairs : List (Label × α)} (h : Paired f columns pairs) :
    ∀ p ∈ pairs, f p.1 = .ok p.2 := by
  induction h with
  | nil => simp
  | cons hlp _ ih => exact List.forall_mem_cons.mpr ⟨by rw [hlp.1, hlp.2], ih⟩

theorem exists_paired_of_measured {figures : List (Label × α)}
    (h : measured f columns = .ok figures) :
    ∃ pairs, Paired f columns pairs ∧ figures = Entries.putAll Label.key pairs [] := by
  obtain ⟨pairs, hpairs, hfigures⟩ := bind_eq_ok.mp h
  cases hfigures
  refine ⟨pairs, (mapM_eq_ok.mp hpairs).imp fun l p hlp => ?_, rfl⟩
  obtain ⟨a, ha, hp⟩ := bind_eq_ok.mp hlp
  cases hp
  exact ⟨rfl, ha⟩

/-- Of distinct columns each has its own figure. -/
theorem find?_measured {figures : List (Label × α)} (h : measured f columns = .ok figures)
    (hcolumns : (columns.map Label.key).Nodup) {label : Label} (hlabel : label ∈ columns) :
    ∃ a, f label = .ok a ∧ Entries.find? Label.key label.key figures = some a := by
  obtain ⟨pairs, hpaired, rfl⟩ := exists_paired_of_measured h
  obtain ⟨p, hp, rfl, ha⟩ := hpaired.exists_mem hlabel
  rw [← hpaired.keys_eq] at hcolumns
  rw [Entries.putAll_of_nodup (by rwa [List.nil_append]), List.nil_append]
  exact ⟨p.2, ha, Entries.find?_of_mem hcolumns hp⟩

end Figures

theorem nodup_firstColumns (rows : List Row) : ((firstColumns rows).map Label.key).Nodup := by
  cases rows with
  | nil => exact List.nodup_nil
  | cons first rows =>
    simpa [firstColumns, Row.labels, Entries.keys, Function.comp_def] using first.nodup

/-- **Three measures of one column.** Where the quality of some rows can be told, each column of
the first row is found in all three of its parts, and what stands there fits together; the sample
that all of them divide by is not empty. -/
theorem measures_of_assess {rows : List Row} {quality : Option Quality} (hrows : rows ≠ [])
    (h : Quality.assess rows = .ok quality) :
    0 < (rows.take 100).length ∧ (rows.take 100).length = min 100 rows.length ∧
      ∃ q, quality = some q ∧ ∀ label ∈ firstColumns rows, ∃ filled varied unique,
        Entries.find? Label.key label.key q.completeness = some filled ∧
        Entries.find? Label.key label.key q.consistency = some varied ∧
        Entries.find? Label.key label.key q.uniqueness = some unique ∧
        Measures (rows.take 100) label filled varied unique := by
  have hsample : rows.take 100 ≠ [] := by simpa using hrows
  refine ⟨List.length_pos_of_ne_nil hsample, List.length_take, ?_⟩
  rw [Quality.assess, if_neg (by simpa using hrows)] at h
  obtain ⟨filled, hfilled, h⟩ := bind_eq_ok.mp h
  obtain ⟨varied, hvaried, h⟩ := bind_eq_ok.mp h
  obtain ⟨unique, hunique, h⟩ := bind_eq_ok.mp h
  cases h
  refine ⟨_, rfl, fun label hlabel => ?_⟩
  have hnodup := nodup_firstColumns rows
  obtain ⟨f, hf, hfind⟩ := find?_measured hfilled hnodup hlabel
  obtain ⟨v, hv, hvfind⟩ := find?_measured hvaried hnodup hlabel
  obtain ⟨u, hu, hufind⟩ := find?_measured hunique hnodup hlabel
  cases hf
  exact ⟨_, v, u, hfind, hvfind, hufind, measures_of_eq_ok _ label hsample hv hu⟩

/-- Rows with two equal numbers of different kinds, a blank text, two numbers that are not one, a
cell that is missing and a row without the column. -/
def mixedRows : List Row :=
  let put (c : Cell) : Row := Row.ofList [(.ofText "amount", c)]
  [put (.int 1), put (.bool true), put (.text " "), put (.float .nan), put (.float .nan),
    put .null, .empty]

/-- Of seven cells two are missing and one is blank; of the five that are there four differ. -/
theorem measures_mixedRows :
    (∃ filled varied unique,
      Measures (mixedRows.take 100) (.ofText "amount") filled varied unique) ∧
      missing mixedRows (.ofText "amount") = 2 ∧ blanks mixedRows (.ofText "amount") = 1 ∧
      consistency mixedRows (.ofText "amount") = .ok ⟨4, 5⟩ := by
  obtain ⟨quality, h⟩ : ∃ quality, Quality.assess mixedRows = .ok quality :=
    exists_of_isOk (by decide +kernel)
  have hlabel : .ofText "amount" ∈ firstColumns mixedRows := List.mem_singleton_self _
  obtain ⟨-, -, q, -, hcolumns⟩ := measures_of_assess (List.cons_ne_nil _ _) h
  obtain ⟨filled, varied, unique, -, -, -, hmeasures⟩ := hcolumns (.ofText "amount") hlabel
  exact ⟨⟨filled, varied, unique, hmeasures⟩, by decide +kernel, by decide +kernel, rfl⟩

end Report

end AskTable

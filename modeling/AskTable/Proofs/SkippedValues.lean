import AskTable.Proofs.OutsideSample
import AskTable.Proofs.StrictEnvelope

/-!
# Values that are skipped

A cell that reads as no number is left out of the figures of its column. The one value that is
neither read nor left out is a whole number beyond all finite ones: it ends the figures of its
column, and with them the chart.

* `ofInt?_eq_none_iff`: the whole numbers that are too large to be rounded.
* `ReturnsUnless`: a computation that has one fault, and when it has it.
* `Cell.IsBeyond`, `number?_returnsUnless`: the cells that are neither read nor left out.
* `Cell.IsLegible`: the cells that are looked at without a text, or have one.
* `number?_ne_nan`: what a cell reads as is a number.
* `aggregate_returnsUnless`, `recommend_returnsUnless`: when figures and charts end.
-/

namespace AskTable

open AskTable.Number AskTable.Report AskTable.Question

/-! ## Computations with one fault -/

/-- The computation fails with the fault if the condition holds, and returns otherwise. -/
structure ReturnsUnless {ε α : Type} (x : Except ε α) (condition : Prop) (fault : ε) : Prop where
  error : condition → x = .error fault
  ok : ¬ condition → ∃ a, x = .ok a

namespace ReturnsUnless

variable {ε α β : Type} {fault : ε}

theorem bind_pure {x : Except ε α} {condition : Prop} (h : ReturnsUnless x condition fault)
    (f : α → β) : ReturnsUnless (x >>= fun a => pure (f a)) condition fault where
  error := fun hc => by rw [h.error hc]; rfl
  ok := fun hc => by
    obtain ⟨a, ha⟩ := h.ok hc
    exact ⟨f a, by rw [ha]; rfl⟩

theorem mapM {f : α → Except ε β} {condition : α → Prop} {as : List α}
    (h : ∀ a ∈ as, ReturnsUnless (f a) (condition a) fault) :
    ReturnsUnless (as.mapM f) (∃ a ∈ as, condition a) fault where
  error := by
    induction as with
    | nil => rintro ⟨a, ha, -⟩; cases ha
    | cons a as ih =>
      intro hex
      obtain ⟨ha, has⟩ := List.forall_mem_cons.mp h
      rw [List.mapM_cons]
      by_cases hc : condition a
      · rw [ha.error hc]
        rfl
      · obtain ⟨b, hb⟩ := ha.ok hc
        have hrest : ∃ a ∈ as, condition a := by
          obtain ⟨d, hd, hdc⟩ := hex
          rcases List.mem_cons.mp hd with rfl | hd
          · exact absurd hdc hc
          · exact ⟨d, hd, hdc⟩
        rw [hb, ih has hrest]
        rfl
  ok := fun hnone => exists_mapM_eq_ok.mpr fun a ha => (h a ha).ok fun hc => hnone ⟨a, ha, hc⟩

end ReturnsUnless

namespace Number

/-! ## Whole numbers beyond the finite ones -/

/-- Rounding stays at an odd number up to the middle, which goes to the even one above. -/
theorem roundDiv_le_iff {num den q : Nat} (hodd : q % 2 = 1) (hden : 0 < den) :
    roundDiv num den ≤ q ↔ 2 * num < (2 * q + 1) * den := by
  have hsplit := Nat.div_add_mod num den
  have hmod := Nat.mod_lt num hden
  simp only [roundDiv]
  generalize num / den = whole at hsplit ⊢
  generalize num % den = rest at hsplit hmod ⊢
  have hproduct : (2 * q + 1) * den = 2 * (den * q) + den := by
    rw [Nat.add_one_mul, Nat.mul_assoc, Nat.mul_comm q den]
  rw [hproduct]
  rcases Nat.lt_trichotomy whole q with hlt | rfl | hgt
  · have hmul := Nat.mul_le_mul_left den (Nat.succ_le_of_lt hlt)
    rw [Nat.mul_succ] at hmul
    split
    · omega
    · split <;> omega
  · split
    · omega
    · split <;> omega
  · have hmul := Nat.mul_le_mul_left den (Nat.succ_le_of_lt hgt)
    rw [Nat.mul_succ] at hmul
    split
    · omega
    · split <;> omega

theorem twoTo_add (m n : Nat) : twoTo (m + n) = twoTo m * twoTo n := Nat.pow_add _ _ _

theorem lt_twoTo_lastPlace (units : Nat) : units < twoTo 53 * twoTo (lastPlace units) := by
  have hlog : units.log2 + 1 ≤ 53 + lastPlace units := by
    simp only [lastPlace]
    omega
  calc units < twoTo (units.log2 + 1) := Nat.lt_log2_self
    _ ≤ twoTo (53 + lastPlace units) := Nat.pow_le_pow_right (by decide) hlog
    _ = twoTo 53 * twoTo (lastPlace units) := twoTo_add _ _

theorem twoTo_lastPlace_le_of_pos {units : Nat} (h : 0 < lastPlace units) :
    twoTo 52 * twoTo (lastPlace units) ≤ units := by
  have hlog : 52 + lastPlace units = units.log2 := by
    simp only [lastPlace] at h ⊢
    omega
  have hne : units ≠ 0 := by
    rintro rfl
    exact absurd h (by decide)
  calc twoTo 52 * twoTo (lastPlace units) = twoTo units.log2 := by rw [← hlog, twoTo_add]
    _ ≤ units := Nat.log2_self_le hne

theorem two_mul_twoTo_le {m n : Nat} (h : m < n) : 2 * twoTo m ≤ twoTo n := by
  calc 2 * twoTo m = twoTo (m + 1) := by rw [twoTo_add, Nat.mul_comm]; rfl
    _ ≤ twoTo n := Nat.pow_le_pow_right (by decide) h

/-- Whole units round to at most the greatest significand in a place up to the middle between it and
the next power of two. -/
theorem roundUnits_le_iff (units place : Nat) :
    roundUnits units 1 ≤ (twoTo 53 - 1) * twoTo place ↔
      2 * units < (twoTo 54 - 1) * twoTo place := by
  have h52 : twoTo 52 = 4503599627370496 := rfl
  have h53 : twoTo 53 = 9007199254740992 := rfl
  have h54 : twoTo 54 = 18014398509481984 := rfl
  have hpos := twoTo_pos (lastPlace units)
  have hupper := lt_twoTo_lastPlace units
  have hunits : roundUnits units 1 =
      roundDiv units (twoTo (lastPlace units)) * twoTo (lastPlace units) := by
    simp only [roundUnits, Nat.div_one, Nat.one_mul]
  rw [hunits]
  rcases Nat.lt_trichotomy (lastPlace units) place with hlt | rfl | hgt
  · -- Below the place, a significand of 53 bits is less than half of what is allowed.
    have hdouble := two_mul_twoTo_le hlt
    have hdiv : units / twoTo (lastPlace units) < twoTo 53 :=
      Nat.div_lt_of_lt_mul (by rwa [Nat.mul_comm])
    have hround := Nat.mul_le_mul_right (twoTo (lastPlace units))
      (Nat.le_trans (roundDiv_le units (twoTo (lastPlace units))) hdiv)
    rw [h53] at hround hupper
    rw [h53, h54]
    omega
  · rw [Nat.mul_le_mul_right_iff hpos]
    exact roundDiv_le_iff (by decide) hpos
  · -- Above the place, a significand has 53 bits already.
    have hdouble := two_mul_twoTo_le hgt
    have hlower := twoTo_lastPlace_le_of_pos (Nat.zero_lt_of_lt hgt)
    have hdiv : twoTo 52 ≤ units / twoTo (lastPlace units) :=
      (Nat.le_div_iff_mul_le hpos).mpr hlower
    have hround := Nat.mul_le_mul_right (twoTo (lastPlace units))
      (Nat.le_trans hdiv (le_roundDiv_add_one units (twoTo (lastPlace units))))
    have hplace := twoTo_pos place
    rw [h52] at hround hlower
    rw [h53, h54]
    omega

/-- The middle between the greatest finite number and the next power of two. -/
def overflowBound : Nat := (twoTo 54 - 1) * twoTo 970

theorem scaled_overflowBound :
    (twoTo 54 - 1) * twoTo 2045 = 2 * (overflowBound * unitsOfOne) := by decide +kernel

theorem roundUnits_le_maxUnits_iff {n : Nat} :
    roundUnits (n * unitsOfOne) 1 ≤ maxUnits ↔ n < overflowBound := by
  have hone : 0 < unitsOfOne := twoTo_pos 1074
  rw [maxUnits, roundUnits_le_iff, scaled_overflowBound]
  generalize unitsOfOne = one at hone ⊢
  generalize overflowBound = bound
  rw [Nat.mul_lt_mul_left (by decide), Nat.mul_lt_mul_right hone]

/-- A finite number, and nothing for the others. -/
def finite? : Binary64 → Option Binary64
  | .finite negative units => some (.finite negative units)
  | _ => none

/-- The two sides are equal as functions. Unfolding at a number would compute the rounding. -/
theorem ofInt?_eq :
    Binary64.ofInt? = fun n => finite? (.ofRatio (decide (n < 0)) n.natAbs 1) := by
  delta Binary64.ofInt?
  funext n
  generalize Binary64.ofRatio (decide (n < 0)) n.natAbs 1 = x
  cases x <;> rfl

theorem ofInt?_apply (n : Int) : Binary64.ofInt? n =
    finite? (.ofUnits (decide (n < 0)) (roundUnits (n.natAbs * unitsOfOne) 1)) :=
  congrFun ofInt?_eq n

theorem finite?_ofUnits_eq_none_iff {negative : Bool} {units : Nat} :
    finite? (.ofUnits negative units) = none ↔ ¬ units ≤ maxUnits := by
  rw [Binary64.ofUnits]
  generalize maxUnits = most
  split_ifs with h <;> simp [finite?, h]

/-- A whole number has no nearest binary number from the middle between the greatest finite one and
the next power of two on. -/
theorem ofInt?_eq_none_iff {n : Int} :
    Binary64.ofInt? n = none ↔ overflowBound ≤ n.natAbs := by
  rw [← Nat.not_lt, ← roundUnits_le_maxUnits_iff, ofInt?_apply, finite?_ofUnits_eq_none_iff]

theorem finite?_ne_nan {x y : Binary64} (h : finite? x = some y) : y ≠ .nan := by
  cases x <;> cases h
  simp

theorem ofInt?_ne_nan {n : Int} {x : Binary64} (h : Binary64.ofInt? n = some x) : x ≠ .nan := by
  rw [ofInt?_apply] at h
  exact finite?_ne_nan h

theorem ofUnits_ne_nan (negative : Bool) (units : Nat) :
    Binary64.ofUnits negative units ≠ .nan := by
  rw [Binary64.ofUnits]
  generalize maxUnits = most
  split <;> simp

theorem ofScientific_ne_nan (negative : Bool) (digits : Nat) (exponent : Int) :
    Binary64.ofScientific negative digits exponent ≠ .nan := by
  simp only [Binary64.ofScientific]
  split
  · simp
  · split
    · simp
    · split <;> exact ofUnits_ne_nan _ _

end Number

/-! ## Cells that are neither read nor left out -/

namespace Cell

/-- A whole number with no nearest binary number. -/
def IsBeyond (c : Cell) : Prop := ∃ n, (c = .int n ∨ c = .wordInt n) ∧ overflowBound ≤ n.natAbs

/-- A cell that is a number, or whose text can be written to look for one. -/
def IsLegible (c : Cell) : Prop := c.isNumber = true ∨ c.IsWritable

theorem leading?_ne_nan (c : Cell) : leading? c ≠ some .nan := by
  have htext (s : String) : leadingNumber? s ≠ some .nan := by
    intro h
    obtain ⟨⟨numeral, rest⟩, -, hvalue⟩ := Option.map_eq_some_iff.mp h
    exact ofScientific_ne_nan _ _ _ hvalue
  cases c with
  | null => simp [leading?]
  | bool b => simp [leading?]
  | _ => exact htext _

theorem proper_ne_nan (x : Binary64) : proper x ≠ some .nan := by
  cases x <;> simp [proper, Binary64.isNaN]

/-- A whole number is read or too large, and every other cell is read or left out. The rounding of
whole numbers has a name of its own, so that no step computes it. -/
theorem number?_cases {nearest : Int → Option Binary64} (hnearest : Binary64.ofInt? = nearest)
    (c : Cell) :
    (∃ n, (c = .int n ∨ c = .wordInt n) ∧
      c.number? = (nearest n).elim (.error .tooLarge) fun x => .ok (some x)) ∨
    (∀ n, c ≠ .int n ∧ c ≠ .wordInt n) ∧
      ∃ reading, c.number? = .ok reading ∧ reading ≠ some .nan := by
  generalize hread : number? = read
  delta number? at hread
  rw [hnearest] at hread
  subst hread
  cases c with
  | int n =>
    refine Or.inl ⟨n, Or.inl rfl, ?_⟩
    dsimp only
    cases nearest n <;> rfl
  | wordInt n =>
    refine Or.inl ⟨n, Or.inr rfl, ?_⟩
    dsimp only
    cases nearest n <;> rfl
  | float x => exact Or.inr ⟨by simp, _, rfl, proper_ne_nan x⟩
  | wordFloat x => exact Or.inr ⟨by simp, _, rfl, proper_ne_nan x⟩
  | decimal d =>
    refine Or.inr ⟨by simp, _, rfl, ?_⟩
    cases d.toBinary64? with
    | none => simp
    | some x => exact proper_ne_nan x
  | complex re im => exact Or.inr ⟨by simp, _, rfl, by simp⟩
  | _ => exact Or.inr ⟨by simp, _, rfl, leading?_ne_nan _⟩

/-- Only a whole number beyond all binary ones is neither read nor left out. -/
theorem number?_returnsUnless (c : Cell) : ReturnsUnless c.number? c.IsBeyond .tooLarge := by
  rcases number?_cases rfl c with ⟨n, hc, hnumber⟩ | ⟨hc, reading, hnumber, -⟩
  · have hbeyond : c.IsBeyond ↔ Binary64.ofInt? n = none := by
      rw [ofInt?_eq_none_iff]
      constructor
      · rintro ⟨m, hm, hle⟩
        rcases hc with rfl | rfl <;> rcases hm with hm | hm <;> cases hm <;> exact hle
      · exact fun hle => ⟨n, hc, hle⟩
    rw [hnumber, hbeyond]
    generalize Binary64.ofInt? n = nearest
    cases nearest with
    | none => exact ⟨fun _ => rfl, fun h => absurd rfl h⟩
    | some x => exact ⟨by simp, fun _ => ⟨some x, rfl⟩⟩
  · refine ⟨?_, fun _ => ⟨reading, hnumber⟩⟩
    rintro ⟨n, hn, -⟩
    exact absurd hn (not_or.mpr (hc n))

/-- What a cell reads as is a number. -/
theorem number?_ne_nan (c : Cell) : c.number? ≠ .ok (some .nan) := by
  intro h
  rcases number?_cases rfl c with ⟨n, -, hnumber⟩ | ⟨-, reading, hnumber, hreading⟩
  · have hwhole := @ofInt?_ne_nan n
    rw [hnumber] at h
    generalize Binary64.ofInt? n = nearest at h hwhole
    cases nearest with
    | none => cases h
    | some x =>
      cases h
      exact hwhole rfl rfl
  · rw [hnumber] at h
    cases h
    exact hreading rfl

end Cell

/-! ## Figures and charts -/

namespace Report

variable (rows : List Row)

/-- Some cell of the column is a whole number beyond all binary ones. -/
def HoldsBeyond (label : Label) : Prop := ∃ c ∈ column rows label, c.IsBeyond

theorem columnNumbers_returnsUnless (label : Label) :
    ReturnsUnless (columnNumbers rows label) (HoldsBeyond rows label) .tooLarge :=
  (ReturnsUnless.mapM fun c _ => c.number?_returnsUnless).bind_pure _

theorem figures?_returnsUnless (label : Label) :
    ReturnsUnless (figures? rows label) (HoldsBeyond rows label) .tooLarge :=
  (columnNumbers_returnsUnless rows label).bind_pure _

theorem aggregate_returnsUnless (columns : List Label) :
    ReturnsUnless (aggregate rows columns) (∃ label ∈ columns, HoldsBeyond rows label)
      .tooLarge := by
  have hpairs : ReturnsUnless (columns.mapM fun l => return (l, ← figures? rows l))
      (∃ label ∈ columns, HoldsBeyond rows label) .tooLarge :=
    ReturnsUnless.mapM fun l _ => (figures?_returnsUnless rows l).bind_pure _
  exact (hpairs.bind_pure _).bind_pure _

theorem recommend_returnsUnless (columns : List Label) :
    ReturnsUnless (recommend rows columns)
      (∃ label ∈ numericColumns rows columns, HoldsBeyond rows label) .tooLarge := by
  simp only [recommend]
  split
  · rename_i hnone
    rw [List.isEmpty_iff.mp hnone]
    exact ⟨by simp, fun _ => ⟨_, rfl⟩⟩
  · exact (aggregate_returnsUnless rows _).bind_pure _

/-- **A value that does not read as a number is skipped, but a whole number beyond all binary ones
ends the figures of its column, and the chart if the column is numeric.** This is told of cells that
are numbers or have a text. -/
theorem values_skipped_unless_beyond (c : Cell) (columns : List Label) :
    (c.IsLegible → ReturnsUnless c.number? c.IsBeyond .tooLarge ∧ c.number? ≠ .ok (some .nan)) ∧
    ((∀ label ∈ columns, ∀ d ∈ column rows label, d.IsLegible) →
      ReturnsUnless (aggregate rows columns) (∃ label ∈ columns, HoldsBeyond rows label)
        .tooLarge ∧
      ReturnsUnless (recommend rows columns)
        (∃ label ∈ numericColumns rows columns, HoldsBeyond rows label) .tooLarge) :=
  ⟨fun _ => ⟨c.number?_returnsUnless, c.number?_ne_nan⟩,
    fun _ => ⟨aggregate_returnsUnless rows columns, recommend_returnsUnless rows columns⟩⟩

/-- A row with a weight, sizes in a list and a price that is not a number. -/
def weighedRow : Row :=
  Row.ofList [(.ofText "weight", .text "12 kg"), (.ofText "sizes", .list [.int 7]),
    (.ofText "price", .float .nan)]

theorem mem_column_weighedRow {label : Label} (hlabel : label ∈ weighedRow.labels) {d : Cell}
    (hd : d ∈ column [weighedRow] label) :
    d = .text "12 kg" ∨ d = .list [.int 7] ∨ d = .float .nan := by
  have hlabels : weighedRow.labels = [.ofText "weight", .ofText "sizes", .ofText "price"] := rfl
  cases List.mem_singleton.mp hd
  rw [hlabels] at hlabel
  simp only [List.mem_cons, List.not_mem_nil, or_false] at hlabel
  rcases hlabel with rfl | rfl | rfl
  · exact Or.inl rfl
  · exact Or.inr (Or.inl rfl)
  · exact Or.inr (Or.inr rfl)

theorem isLegible_sizes : (Cell.list [.int 7]).IsLegible := by
  have hseven : (Cell.int 7).IsWritable := by
    refine Cell.isWritable_iff.mpr ⟨?_, nofun⟩
    rintro _ ⟨⟩
    decide +kernel
  exact Or.inr (Cell.isWritable_list_iff.mpr (List.forall_mem_singleton.mpr hseven))

theorem not_holdsBeyond_weighedRow {label : Label} (hlabel : label ∈ weighedRow.labels) :
    ¬ HoldsBeyond [weighedRow] label := by
  rintro ⟨d, hd, n, hn, -⟩
  rcases mem_column_weighedRow hlabel hd with rfl | rfl | rfl <;>
    rcases hn with hn | hn <;> cases hn

/-- The weight reads as a number, the sizes and the price are skipped, and the row has its chart. -/
theorem recommend_weighedRow :
    (Cell.text "12 kg").number? = .ok (some (.ofScientific false 12 0)) ∧
      (Cell.list [.int 7]).IsLegible ∧ (Cell.list [.int 7]).number? = .ok none ∧
      (∃ statistics, aggregate [weighedRow] weighedRow.labels = .ok statistics) ∧
      ∃ chart, recommend [weighedRow] weighedRow.labels = .ok chart := by
  obtain ⟨-, hcharts⟩ :=
    values_skipped_unless_beyond [weighedRow] (.text "12 kg") weighedRow.labels
  obtain ⟨haggregate, hrecommend⟩ := hcharts fun label hlabel d hd => by
    rcases mem_column_weighedRow hlabel hd with rfl | rfl | rfl
    · exact Or.inr (Cell.isWritable_text _)
    · exact isLegible_sizes
    · exact Or.inl rfl
  refine ⟨rfl, isLegible_sizes, rfl, haggregate.ok ?_, hrecommend.ok ?_⟩
  · rintro ⟨label, hlabel, hbeyond⟩
    exact not_holdsBeyond_weighedRow hlabel hbeyond
  · rintro ⟨label, hlabel, hbeyond⟩
    rw [numericColumns, List.mem_filter] at hlabel
    exact not_holdsBeyond_weighedRow hlabel.1 hbeyond

/-- A row with a whole number of 401 digits. -/
def hugeRow : Row := Row.ofList [(.ofText "amount", .int (tenTo 400))]

theorem isBeyond_tenTo_400 : (Cell.int (tenTo 400)).IsBeyond :=
  ⟨tenTo 400, Or.inl rfl, by decide +kernel⟩

theorem get_hugeRow : hugeRow.get (.ofText "amount") = .int (tenTo 400) := rfl

theorem isBeyond_hugeRow : (hugeRow.get (.ofText "amount")).IsBeyond := by
  rw [get_hugeRow]
  exact isBeyond_tenTo_400

/-- A whole number of 401 digits is not read, and its row has no chart. -/
theorem recommend_hugeRow :
    (Cell.int (tenTo 400)).number? = .error .tooLarge ∧
      recommend [hugeRow] [.ofText "amount"] = .error .tooLarge := by
  have hnumeric : numericColumns [hugeRow] [.ofText "amount"] = [.ofText "amount"] := rfl
  refine ⟨(Cell.number?_returnsUnless _).error isBeyond_tenTo_400,
    (recommend_returnsUnless _ _).error ?_⟩
  rw [hnumeric]
  exact ⟨_, List.mem_singleton.mpr rfl, _, List.mem_singleton.mpr rfl, isBeyond_hugeRow⟩

end Report

end AskTable

import AskTable.Proofs.DistinctCounts
import AskTable.Proofs.EqualCells
import Mathlib.Data.List.Perm.Basic

/-!
# The order of rows

Counting how many cells differ goes through them one after the other, but equality makes classes
among them, so that the count is the same in every order. The measures of a sample therefore do not
depend on the order of its rows.

* `Cell.Same`: which cells are counted once: equal ones, where lists, dictionaries and frames
  count as the text of their literal.
* `Tally`: how a set grows when values are put into it one after the other.
* `tally_iff_of_distinctCount`: cells that can be counted differ as often as a set of them grows.
* `distinctCount_perm`: their order does not matter.
* `ReturnsAlike`: computations that return the same when one of them does.
* `measures_perm`: the measures of a sample in any order of its rows.
-/

namespace AskTable

open AskTable.Number AskTable.Question

/-! ## Counting into a set -/

/-- Values are put into a set, the last of the list first. The set grows by one unless the value is
there already. -/
inductive Tally {α : Type} (same : α → α → Prop) : List α → Nat → Prop
  | nil : Tally same [] 0
  | again {a : α} {as : List α} {n : Nat} :
    (∃ b ∈ as, same a b) → Tally same as n → Tally same (a :: as) n
  | fresh {a : α} {as : List α} {n : Nat} :
    (∀ b ∈ as, ¬ same a b) → Tally same as n → Tally same (a :: as) (n + 1)

theorem Tally.unique {α : Type} {same : α → α → Prop} {as : List α} {m n : Nat}
    (hm : Tally same as m) (hn : Tally same as n) : m = n := by
  induction hm generalizing n with
  | nil =>
    cases hn
    rfl
  | again hsame _ ih =>
    obtain ⟨b, hb, hab⟩ := hsame
    cases hn with
    | again _ hn => exact ih hn
    | fresh hnew => exact absurd hab (hnew b hb)
  | fresh hnew _ ih =>
    cases hn with
    | again hsame =>
      obtain ⟨b, hb, hab⟩ := hsame
      exact absurd hab (hnew b hb)
    | fresh _ hn => rw [ih hn]

namespace Cell

/-- What a cell is counted as: nested values count as the text of their literal. -/
def counted : Cell → Cell
  | .list cells => .text (literal (.list cells))
  | .dict entries => .text (literal (.dict entries))
  | .frame f => .text (literal (.frame f))
  | c => c

theorem kin_eq_key_counted (c : Cell) : c.kin = c.counted.key := by
  cases c <;> rfl

/-- Cells that are counted once. -/
def Same (a b : Cell) : Prop := Equal a.counted b.counted

theorem same_iff {a b : Cell} {ka kb : Key} (ha : a.kin = .ok ka) (hb : b.kin = .ok kb) :
    Same a b ↔ ka = kb ∧ isUnique ka = false := by
  rw [kin_eq_key_counted] at ha hb
  exact equal_iff ha hb

end Cell

theorem exists_same_iff {c : Cell} {k : Key} {cells : List Cell} {ks : List Key}
    (hc : c.kin = .ok k) (hks : List.Forall₂ (fun c k => c.kin = .ok k) cells ks) :
    (∃ b ∈ cells, Cell.Same c b) ↔ k ∈ ks ∧ isUnique k = false := by
  induction hks with
  | nil => simp
  | cons hb _ ih =>
    rw [List.exists_mem_cons_iff, ih, Cell.same_iff hc hb, List.mem_cons, or_and_right]

theorem tally_countDistinct {cells : List Cell} {ks : List Key}
    (hks : List.Forall₂ (fun c k => c.kin = .ok k) cells ks) :
    Tally Cell.Same cells (countDistinct ks) := by
  induction hks with
  | nil => exact .nil
  | @cons c k cells ks hc hks ih =>
    have hsame := exists_same_iff hc hks
    rw [countDistinct_cons]
    split
    · rename_i hnew
      refine .fresh (fun b hb hcb => ?_) ih
      obtain ⟨hk, hone⟩ := hsame.mp ⟨b, hb, hcb⟩
      rcases hnew with hunique | hnew
      · rw [hunique] at hone
        cases hone
      · exact hnew hk
    · rename_i hold
      rw [not_or, Bool.not_eq_true, not_not] at hold
      exact .again (hsame.mpr hold.symm) ih

/-- Cells that can be counted differ as often as a set of them grows. -/
theorem tally_iff_of_distinctCount {cells : List Cell} {n : Nat} (h : distinctCount cells = .ok n)
    (m : Nat) : Tally Cell.Same cells m ↔ m = n := by
  obtain ⟨ks, hks, hn⟩ := bind_eq_ok.mp h
  cases hn
  have htally := tally_countDistinct (mapM_eq_ok.mp hks)
  exact ⟨fun hm => hm.unique htally, fun hm => hm ▸ htally⟩

/-! ## Computations that return alike -/

/-- When one of the computations returns, the other returns the same. -/
def ReturnsAlike {ε α : Type} (x y : Except ε α) : Prop := ∀ a, x = .ok a ↔ y = .ok a

namespace ReturnsAlike

variable {ε α β : Type}

theorem refl (x : Except ε α) : ReturnsAlike x x := fun _ => Iff.rfl

theorem bind {x y : Except ε α} {f g : α → Except ε β} (h : ReturnsAlike x y)
    (hfg : ∀ a, ReturnsAlike (f a) (g a)) : ReturnsAlike (x >>= f) (y >>= g) := by
  intro b
  simp only [bind_eq_ok, h _, hfg _ _]

theorem mapM {f g : α → Except ε β} (h : ∀ a, ReturnsAlike (f a) (g a)) (as : List α) :
    ReturnsAlike (as.mapM f) (as.mapM g) := by
  intro bs
  simp only [mapM_eq_ok, h _ _]

end ReturnsAlike

/-- How many cells differ does not depend on their order. -/
theorem distinctCount_perm {cells cells' : List Cell} (h : cells.Perm cells') :
    ReturnsAlike (distinctCount cells) (distinctCount cells') := by
  have hone : ∀ {cells cells' : List Cell}, cells.Perm cells' → ∀ n,
      distinctCount cells = .ok n → distinctCount cells' = .ok n := by
    intro cells cells' h n hn
    obtain ⟨ks, hks, hcount⟩ := bind_eq_ok.mp hn
    cases hcount
    obtain ⟨ks', hks', hperm⟩ := List.perm_comp_forall₂ h.symm (mapM_eq_ok.mp hks)
    exact bind_eq_ok.mpr ⟨ks', mapM_eq_ok.mpr hks', by rw [countDistinct_perm hperm]; rfl⟩
  exact fun n => ⟨hone h n, hone h.symm n⟩

namespace Report

theorem column_perm {sample sample' : List Row} (h : sample.Perm sample') (label : Label) :
    (column sample label).Perm (column sample' label) := h.map _

theorem presentCells_perm {sample sample' : List Row} (h : sample.Perm sample') (label : Label) :
    (presentCells sample label).Perm (presentCells sample' label) :=
  (column_perm h label).filter _

theorem measuredCells_alike {α : Type} {f g : Label → Except Fault α}
    (hfg : ∀ label, ReturnsAlike (f label) (g label)) (columns : List Cell) :
    ReturnsAlike (measuredCells f columns) (measuredCells g columns) :=
  (ReturnsAlike.mapM (fun _ => (ReturnsAlike.refl _).bind fun label =>
    (hfg label).bind fun _ => .refl _) columns).bind fun _ => .refl _

section Order

variable {sample sample' : List Row} (h : sample.Perm sample')
include h

theorem completeness_perm (label : Label) :
    completeness sample label = completeness sample' label := by
  rw [completeness, completeness, (column_perm h label).countP_eq, h.length_eq]

theorem consistency_perm (label : Label) :
    ReturnsAlike (consistency sample label) (consistency sample' label) := by
  have hpresent := presentCells_perm h label
  simp only [consistency, hpresent.length_eq]
  exact (distinctCount_perm hpresent).bind fun _ => .refl _

theorem uniqueness_perm (label : Label) :
    ReturnsAlike (uniqueness sample label) (uniqueness sample' label) := by
  simp only [uniqueness, h.length_eq]
  exact (distinctCount_perm (column_perm h label)).bind fun _ => .refl _

theorem percentCells_alike {α : Type} {f g : Label → Except Fault α}
    (hfg : ∀ label, ReturnsAlike (f label) (g label)) (columns : List Cell) :
    ReturnsAlike (percentCells sample f columns) (percentCells sample' g columns) := by
  have hempty : sample.isEmpty = sample'.isEmpty := by
    rw [Bool.eq_iff_iff, List.isEmpty_iff_length_eq_zero, List.isEmpty_iff_length_eq_zero,
      h.length_eq]
  rw [percentCells, percentCells, hempty]
  split
  · exact .refl _
  · exact measuredCells_alike hfg columns

/-- **The measures of a sample do not depend on the order of its rows.** For any columns they are
the same in any other order, where they can be taken in one. How many cells differ is what a set of
them grows to in any order, cells that are equal across kinds counting once. -/
theorem measures_perm (columns : List Cell) :
    ReturnsAlike (percentCells sample (fun l => .ok (completeness sample l)) columns)
        (percentCells sample' (fun l => .ok (completeness sample' l)) columns) ∧
      ReturnsAlike (measuredCells (consistency sample) columns)
        (measuredCells (consistency sample') columns) ∧
      ReturnsAlike (percentCells sample (uniqueness sample) columns)
        (percentCells sample' (uniqueness sample') columns) ∧
      (∀ label v, consistency sample label = .ok v →
        ∀ n, Tally Cell.Same (presentCells sample' label) n ↔ n = v.distinct) ∧
      ∀ label x, uniqueness sample label = .ok x →
        ∃ n, (∀ m, Tally Cell.Same (column sample' label) m ↔ m = n) ∧
          x = percent n sample'.length := by
  refine ⟨percentCells_alike h (fun l => ?_) columns,
    measuredCells_alike (consistency_perm h) columns,
    percentCells_alike h (uniqueness_perm h) columns, fun label v hv => ?_, fun label x hx => ?_⟩
  · rw [completeness_perm h l]
    exact .refl _
  · obtain ⟨n, hn, hv⟩ := bind_eq_ok.mp ((consistency_perm h label v).mp hv)
    cases hv
    exact tally_iff_of_distinctCount hn
  · obtain ⟨n, hn, hx⟩ := bind_eq_ok.mp ((uniqueness_perm h label x).mp hx)
    cases hx
    exact ⟨n, tally_iff_of_distinctCount hn, rfl⟩

end Order

/-- Rows with the number one in five kinds, a list that holds it, the text of this list, two numbers
that are none and a missing cell. -/
def kindredRows : List Row :=
  [.int 1, .float (.finite false unitsOfOne), .bool true, .decimal (.finite false 10 (-1)),
    .complex (.finite false unitsOfOne) .negativeZero, .list [.int 1], .text "[1]", .float .nan,
    .decimal (.nan false false 0), .null].map fun c => Row.ofList [(.ofText "amount", c)]

/-- From the last row to the first, nine cells are there, and a set of them grows to four. -/
theorem measures_perm_kindredRows :
    kindredRows.Perm kindredRows.reverse ∧
      consistency kindredRows.reverse (.ofText "amount") = .ok ⟨4, 9⟩ ∧
      Tally Cell.Same (presentCells kindredRows (.ofText "amount")) 4 ∧
      ReturnsAlike (measuredCells (consistency kindredRows.reverse) [.text "amount"])
        (measuredCells (consistency kindredRows) [.text "amount"]) := by
  have hperm : kindredRows.reverse.Perm kindredRows := List.reverse_perm _
  have hvariety : consistency kindredRows.reverse (.ofText "amount") = .ok ⟨4, 9⟩ := by
    decide +kernel
  obtain ⟨-, halike, -, htally, -⟩ := measures_perm hperm [.text "amount"]
  exact ⟨hperm.symm, hvariety, (htally _ _ hvariety 4).mpr rfl, halike⟩

end Report

end AskTable

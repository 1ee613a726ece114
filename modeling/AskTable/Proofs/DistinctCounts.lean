import AskTable.Proofs.StrictEnvelope
import Mathlib.Data.List.Forall2

/-!
# Counting distinct cells

A key adds one to the count unless it is there already. The count therefore does not depend on the
order of the keys, and all missing cells together add one to it.

* `length_eraseDups_congr`: lists of the same members have equally many distinct ones.
* `countDistinct_cons`, `countDistinct_perm`, `countDistinct_pos`: how the count grows, that order
  does not matter, and that there is something to count.
* `countDistinct_filter_ne`: a key counts once however often it is there.
* `kin_eq_null_iff`: only a missing cell counts as missing.
* `distinctCount_present`: missing cells, if any, add one to the count; `distinctCount_pos`.
-/

namespace AskTable

open AskTable.Number AskTable.Question

/-! ## Members without repetition -/

section Repetition

variable {α : Type} [BEq α] [LawfulBEq α]

theorem nodup_eraseDups (as : List α) : as.eraseDups.Nodup := by
  cases as with
  | nil => simp
  | cons a as =>
    rw [List.eraseDups_cons, List.nodup_cons]
    refine ⟨?_, nodup_eraseDups (as.filter fun b => !b == a)⟩
    simp [List.mem_eraseDups]
termination_by as.length
decreasing_by exact Nat.lt_succ_of_le (List.length_filter_le _ _)

theorem length_eraseDups_congr {as bs : List α} (h : ∀ a, a ∈ as ↔ a ∈ bs) :
    as.eraseDups.length = bs.eraseDups.length := by
  refine List.Perm.length_eq ?_
  rw [List.perm_ext_iff_of_nodup (nodup_eraseDups as) (nodup_eraseDups bs)]
  simpa [List.mem_eraseDups] using h

theorem length_eraseDups_cons (a : α) (as : List α) :
    (a :: as).eraseDups.length = as.eraseDups.length + if a ∈ as then 0 else 1 := by
  split
  · rename_i h
    exact length_eraseDups_congr fun b => by simp +contextual [or_iff_right_of_imp, h]
  · rename_i h
    have hkept : (as.filter fun b => !b == a) = as :=
      List.filter_eq_self.mpr fun b hb => by simpa using ne_of_mem_of_not_mem hb h
    rw [List.eraseDups_cons, hkept, List.length_cons]

end Repetition

/-! ## Keys -/

/-- A key adds one to the count unless it is there already; a number that is not one always
does. -/
theorem countDistinct_cons (k : Key) (ks : List Key) :
    countDistinct (k :: ks) =
      countDistinct ks + if isUnique k = true ∨ k ∉ ks then 1 else 0 := by
  rw [countDistinct, countDistinct]
  cases hk : isUnique k with
  | true =>
    simp [hk]
    omega
  | false =>
    have hmem : k ∈ ks.filter (fun k => !isUnique k) ↔ k ∈ ks := by simp [hk]
    rw [List.countP_cons_of_neg (by simp [hk]), List.filter_cons_of_pos (by simp [hk]),
      length_eraseDups_cons, if_congr hmem rfl rfl]
    by_cases h : k ∈ ks <;> simp [h, Nat.add_assoc]

theorem countDistinct_perm {ks ls : List Key} (h : ks.Perm ls) :
    countDistinct ks = countDistinct ls := by
  have hrest := length_eraseDups_congr fun k => (h.filter fun k => !isUnique k).mem_iff
  rw [countDistinct, countDistinct, h.countP_eq, hrest]

theorem countDistinct_pos {ks : List Key} (h : ks ≠ []) : 0 < countDistinct ks := by
  induction ks with
  | nil => exact absurd rfl h
  | cons k ks ih =>
    rw [countDistinct_cons]
    cases ks with
    | nil => simp
    | cons l ks => exact Nat.add_pos_left (ih (List.cons_ne_nil l ks)) _

/-- A key that is not unique counts once however often it is there. -/
theorem countDistinct_filter_ne {k : Key} (hk : isUnique k = false) (ks : List Key) :
    countDistinct ks = countDistinct (ks.filter (· ≠ k)) + if k ∈ ks then 1 else 0 := by
  induction ks with
  | nil => rfl
  | cons l ks ih =>
    rw [countDistinct_cons, ih]
    by_cases hl : l = k
    · subst hl
      rw [List.filter_cons_of_neg (by simp)]
      by_cases hm : l ∈ ks <;> simp [hk, hm]
    · have hmem : l ∈ ks.filter (· ≠ k) ↔ l ∈ ks := by simp [hl]
      rw [List.filter_cons_of_pos (by simpa using hl), countDistinct_cons, Nat.add_right_comm]
      simp [hl, Ne.symm hl]

/-! ## Cells -/

/-- Only a missing cell has the key of a missing one. -/
theorem Cell.kin_eq_null_iff (c : Cell) : c.kin = .ok [.null] ↔ c = .null := by
  cases c with
  | decimal d => rcases d with _ | _ | ⟨_, _ | _, _⟩ <;> simp [Cell.kin, Cell.key, decimalAtom?]
  | complex re im => cases h : im.isZero <;> cases re <;> simp [Cell.kin, Cell.key, binaryAtom, h]
  | float x | wordFloat x => cases x <;> simp [Cell.kin, Cell.key, binaryAtom]
  | stamp m => cases m <;> simp [Cell.kin, Cell.key]
  | boxed c => simp only [Cell.kin, Cell.key.eq_def]; split <;> simp_all
  | tuple cells => cases h : Cell.keys cells <;> simp [Cell.kin, Cell.key, h]
  | _ => simp [Cell.kin, Cell.key, integerAtom]

theorem Cell.isNull_eq_of_kin {c : Cell} {k : Key} (h : c.kin = .ok k) :
    c.isNull = decide (k = [.null]) := by
  have hnull : c.isNull = true ↔ c = .null := by cases c <;> simp [Cell.isNull]
  rw [Bool.eq_iff_iff, hnull, decide_eq_true_iff, ← c.kin_eq_null_iff, h, Except.ok.injEq]

/-- Missing cells are all alike: together they add one to the count of those that are there. -/
theorem distinctCount_present {cells : List Cell} {n : Nat} (h : distinctCount cells = .ok n) :
    ∃ m, distinctCount (cells.filter fun c => !c.isNull) = .ok m ∧
      n = m + if cells.any Cell.isNull then 1 else 0 := by
  obtain ⟨ks, hks, hn⟩ := bind_eq_ok.mp h
  cases hn
  have hkeys := mapM_eq_ok.mp hks
  have hpresent : (cells.filter fun c => !c.isNull).mapM Cell.kin =
      .ok (ks.filter (· ≠ [.null])) := by
    refine mapM_eq_ok.mpr (List.rel_filter (fun c k hck => ?_) hkeys)
    simp [Cell.isNull_eq_of_kin hck]
  have hmissing : cells.any Cell.isNull = true ↔ [.null] ∈ ks := by
    clear hks h hpresent
    induction hkeys with
    | nil => simp
    | cons hck _ ih =>
      rw [List.any_cons, Bool.or_eq_true, Cell.isNull_eq_of_kin hck, decide_eq_true_iff, ih,
        List.mem_cons, eq_comm]
  refine ⟨countDistinct (ks.filter (· ≠ [.null])), bind_eq_ok.mpr ⟨_, hpresent, rfl⟩, ?_⟩
  have hone : isUnique [.null] = false := rfl
  rw [countDistinct_filter_ne hone ks, if_congr hmissing rfl rfl]

/-- Of any cells at least one differs. -/
theorem distinctCount_pos {cells : List Cell} {n : Nat} (h : distinctCount cells = .ok n)
    (hcells : 0 < cells.length) : 0 < n := by
  obtain ⟨ks, hks, hn⟩ := bind_eq_ok.mp h
  cases hn
  rw [(mapM_eq_ok.mp hks).length_eq] at hcells
  exact countDistinct_pos (List.ne_nil_of_length_pos hcells)

end AskTable

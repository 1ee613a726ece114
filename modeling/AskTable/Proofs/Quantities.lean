import AskTable.Cell.Key
import Mathlib.Algebra.Order.Field.Power
import Mathlib.NumberTheory.Padics.PadicVal.Basic

/-!
# Quantities

A quantity stands for a rational number. In lowest terms, with the factors two and five divided out,
no two quantities stand for the same, so that numbers are told apart by what they denote.

* `Quantity.value`: the rational number.
* `Quantity.IsNormal`: lowest terms; zero has them once.
* `value_of`, `isNormal_of`: the quantity of a number denotes it and is in lowest terms.
* `IsNormal.eq_of_value_eq`: quantities in lowest terms are equal as soon as they denote one number.
-/

namespace AskTable

/-- A magnitude with a sign. -/
def withSign (negative : Bool) (magnitude : ℚ) : ℚ := if negative then -magnitude else magnitude

/-- A positive magnitude and its sign are told by the number. -/
theorem withSign_inj {a b : Bool} {x y : ℚ} (hx : 0 < x) (hy : 0 < y)
    (h : withSign a x = withSign b y) : a = b ∧ x = y := by
  cases a <;> cases b <;> simp only [withSign, Bool.false_eq_true, if_true, if_false] at h
  · exact ⟨rfl, h⟩
  · linarith
  · linarith
  · exact ⟨rfl, neg_inj.mp h⟩

/-! ## Dividing out -/

theorem divideOut_mul_pow (factor more n : ℕ) :
    (divideOut factor more n).1 * factor ^ (divideOut factor more n).2 = n := by
  induction more generalizing n with
  | zero => simp [divideOut]
  | succ more ih =>
    rw [divideOut]
    split
    · rename_i h
      have hdiv : factor ∣ n := Nat.dvd_of_mod_eq_zero (by simpa using h)
      rw [pow_succ, ← mul_assoc, ih, Nat.div_mul_cancel hdiv]
    · simp

/-- With enough steps the factor is divided out. -/
theorem not_dvd_divideOut {factor more n : ℕ} (hfactor : 1 < factor) (hn : n ≠ 0)
    (hmore : n < factor ^ more) : ¬ factor ∣ (divideOut factor more n).1 := by
  induction more generalizing n with
  | zero => exact absurd (Nat.lt_one_iff.mp hmore) hn
  | succ more ih =>
    rw [divideOut]
    split
    · rename_i h
      have hdiv : factor ∣ n := Nat.dvd_of_mod_eq_zero (by simpa using h)
      refine ih (Nat.div_ne_zero_iff_of_dvd hdiv |>.mpr ⟨hn, by omega⟩) ?_
      rw [pow_succ] at hmore
      exact Nat.div_lt_of_lt_mul (by rwa [mul_comm])
    · rename_i h
      exact fun hdiv => h (by simpa using Nat.mod_eq_zero_of_dvd hdiv)

theorem divideOut_dvd (factor more n : ℕ) : (divideOut factor more n).1 ∣ n :=
  ⟨_, (divideOut_mul_pow factor more n).symm⟩

theorem lt_pow_log2_succ {factor : ℕ} (hfactor : 1 < factor) (n : ℕ) :
    n < factor ^ (n.log2 + 1) :=
  calc n < 2 ^ (n.log2 + 1) := Nat.lt_log2_self
    _ ≤ factor ^ (n.log2 + 1) := Nat.pow_le_pow_left hfactor _

namespace Quantity

/-- The number that a quantity stands for. -/
def value (q : Quantity) : ℚ := withSign q.negative (q.odd * 2 ^ q.twos * 5 ^ q.fives)

/-- Lowest terms: zero is written in one way, and otherwise neither factor divides. -/
def IsNormal (q : Quantity) : Prop :=
  q = ⟨false, 0, 0, 0⟩ ∨ ¬ 2 ∣ q.odd ∧ ¬ 5 ∣ q.odd

/-- The parts of a quantity: both factors are divided out of the number, and none is lost. -/
theorem exists_of_eq (negative : Bool) {n : ℕ} (hn : n ≠ 0) (twos fives : ℤ) :
    ∃ odd a b : ℕ, of negative n twos fives = ⟨negative, odd, twos + a, fives + b⟩ ∧
      odd * 5 ^ b * 2 ^ a = n ∧ ¬ 2 ∣ odd ∧ ¬ 5 ∣ odd := by
  obtain ⟨m, a, hhalved⟩ : ∃ m a, divideOut 2 (n.log2 + 1) n = (m, a) := ⟨_, _, rfl⟩
  have htwo := divideOut_mul_pow 2 (n.log2 + 1) n
  have heven := not_dvd_divideOut (by decide) hn (lt_pow_log2_succ (by decide : 1 < 2) n)
  rw [hhalved] at htwo heven
  have hm : m ≠ 0 := by
    rintro rfl
    exact heven (dvd_zero 2)
  obtain ⟨odd, b, hrest⟩ : ∃ odd b, divideOut 5 (m.log2 + 1) m = (odd, b) := ⟨_, _, rfl⟩
  have hfive := divideOut_mul_pow 5 (m.log2 + 1) m
  have hdvd := divideOut_dvd 5 (m.log2 + 1) m
  have hodd := not_dvd_divideOut (by decide) hm (lt_pow_log2_succ (by decide : 1 < 5) m)
  rw [hrest] at hfive hdvd hodd
  refine ⟨odd, a, b, ?_, by rw [hfive, htwo], fun h => heven (h.trans hdvd), hodd⟩
  simp [of, hn, hhalved, hrest]

theorem of_zero (negative : Bool) (twos fives : ℤ) :
    of negative 0 twos fives = ⟨false, 0, 0, 0⟩ := rfl

/-- The quantity of a number denotes the number. -/
theorem value_of (negative : Bool) (n : ℕ) (twos fives : ℤ) :
    (of negative n twos fives).value = withSign negative (n * 2 ^ twos * 5 ^ fives) := by
  rcases eq_or_ne n 0 with rfl | hn
  · simp [of_zero, value, withSign]
  · obtain ⟨odd, a, b, hof, hproduct, -, -⟩ := exists_of_eq negative hn twos fives
    have hnumber : (n : ℚ) = odd * 5 ^ b * 2 ^ a := by exact_mod_cast hproduct.symm
    rw [hof, value, hnumber, zpow_add₀ two_ne_zero, zpow_add₀ (by norm_num), zpow_natCast,
      zpow_natCast]
    congr 1
    ring

theorem isNormal_of (negative : Bool) (n : ℕ) (twos fives : ℤ) :
    (of negative n twos fives).IsNormal := by
  rcases eq_or_ne n 0 with rfl | hn
  · exact Or.inl (of_zero negative twos fives)
  · obtain ⟨odd, a, b, hof, -, hodd⟩ := exists_of_eq negative hn twos fives
    exact Or.inr (hof ▸ hodd)

/-! ## Lowest terms are unique -/

theorem odd_pos {q : Quantity} (h : ¬ 2 ∣ q.odd) : 0 < (q.odd : ℚ) := by
  rw [Nat.cast_pos, Nat.pos_iff_ne_zero]
  exact fun hzero => h (hzero ▸ dvd_zero 2)

theorem magnitude_pos {q : Quantity} (h : ¬ 2 ∣ q.odd) (twos fives : ℤ) :
    0 < (q.odd : ℚ) * 2 ^ twos * 5 ^ fives :=
  mul_pos (mul_pos (odd_pos h) (zpow_pos two_pos _)) (zpow_pos (by norm_num) _)

/-- How often a prime that is not left over is in the number. -/
theorem padicValRat_value {r : ℕ} [Fact r.Prime] {q : Quantity} (htwo : ¬ 2 ∣ q.odd)
    (hodd : ¬ r ∣ q.odd) :
    padicValRat r q.value = q.twos * padicValNat r 2 + q.fives * padicValNat r 5 := by
  have hpos := (odd_pos htwo).ne'
  have htwos : (2 : ℚ) ^ q.twos ≠ 0 := zpow_ne_zero _ two_ne_zero
  have hfives : (5 : ℚ) ^ q.fives ≠ 0 := zpow_ne_zero _ (by norm_num)
  have hsigned : padicValRat r q.value = padicValRat r (q.odd * 2 ^ q.twos * 5 ^ q.fives) := by
    rw [value, withSign]
    split
    · exact padicValRat.neg _
    · rfl
  have htwoVal : padicValRat r (2 : ℚ) = padicValNat r 2 := padicValRat.of_nat
  have hfiveVal : padicValRat r (5 : ℚ) = padicValNat r 5 := padicValRat.of_nat
  rw [hsigned, padicValRat.mul (mul_ne_zero hpos htwos) hfives, padicValRat.mul hpos htwos,
    padicValRat.zpow, padicValRat.zpow, padicValRat.of_nat, padicValNat.eq_zero_of_not_dvd hodd,
    htwoVal, hfiveVal, Nat.cast_zero, zero_add]

/-- A quantity other than zero tells its sign and how often the two factors are in the number. -/
theorem eq_of_value_eq_of_not_dvd {p q : Quantity} (hp : ¬ 2 ∣ p.odd ∧ ¬ 5 ∣ p.odd)
    (hq : ¬ 2 ∣ q.odd ∧ ¬ 5 ∣ q.odd) (h : p.value = q.value) : p = q := by
  have : Fact (Nat.Prime 5) := ⟨Nat.prime_five⟩
  have htwos : p.twos = q.twos := by
    have hval := padicValRat_value hp.1 hp.1
    have hfive : padicValNat 2 5 = 0 := padicValNat.eq_zero_of_not_dvd (by decide)
    rw [h, padicValRat_value hq.1 hq.1, hfive] at hval
    simpa using hval.symm
  have hfives : p.fives = q.fives := by
    have hval := padicValRat_value hp.1 hp.2
    have htwo : padicValNat 5 2 = 0 := padicValNat.eq_zero_of_not_dvd (by decide)
    rw [h, padicValRat_value hq.1 hq.2, htwo] at hval
    simpa using hval.symm
  rw [value, value, htwos, hfives] at h
  obtain ⟨hnegative, hmagnitudes⟩ :=
    withSign_inj (magnitude_pos hp.1 _ _) (magnitude_pos hq.1 _ _) h
  have hodd : p.odd = q.odd := by
    have hcancel := mul_right_cancel₀ (zpow_ne_zero _ (by norm_num)) hmagnitudes
    exact Nat.cast_injective (mul_right_cancel₀ (zpow_ne_zero _ two_ne_zero) hcancel)
  rcases p with ⟨a, m, t, f⟩
  rcases q with ⟨b, n, u, g⟩
  simp_all

theorem value_ne_zero {q : Quantity} (h : ¬ 2 ∣ q.odd) : q.value ≠ 0 := by
  have hmagnitude := (magnitude_pos h q.twos q.fives).ne'
  rw [value, withSign]
  split
  · exact neg_ne_zero.mpr hmagnitude
  · exact hmagnitude

/-- In lowest terms a number is written in one way. -/
theorem IsNormal.eq_of_value_eq {p q : Quantity} (hp : p.IsNormal) (hq : q.IsNormal)
    (h : p.value = q.value) : p = q := by
  have hzero : (⟨false, 0, 0, 0⟩ : Quantity).value = 0 := by simp [value, withSign]
  rcases hp with rfl | hp <;> rcases hq with rfl | hq
  · rfl
  · exact absurd (h.symm.trans hzero) (value_ne_zero hq.1)
  · exact absurd (h.trans hzero) (value_ne_zero hp.1)
  · exact eq_of_value_eq_of_not_dvd hp hq h

end Quantity

end AskTable

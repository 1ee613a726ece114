import AskTable.Question.Plan
import Mathlib.Data.List.TakeWhile

/-!
# Runs of digits

A number can be read only when it does not have too many digits. Small letters and trimming make no
run of digits longer, so the number in a phrase is a run of digits of the question itself.

* `isDigit_iff`: the digits are the ten characters from each zero on.
* `holdsDigit`: is there a digit in a range of code points? There is none in a run of the case table.
* `lowerChar_of_isDigit`, `isDigit_of_mem_lowerChar`: a digit is its own small form, and digits are
  in no other one.
* `infix_of_infix_lower`: a run of digits in the small letters of a text is in the text.
* `limitPhrase?_infix`: the digits of a limit are a run of digits of the question.
* `DigitsWithin`: no run of digits is longer than a bound.
* `limitOf_eq_ok`: a limit can be read then.
-/

namespace AskTable.Text

/-! ## Digits and case tables -/

theorem isDigit_iff {c : Char} :
    isDigit c = true ↔ ∃ z ∈ digitZeros, z ≤ c.toNat ∧ c.toNat < z + 10 := by
  simp only [isDigit, digit?, List.isSome_findSome?, List.any_eq_true, Option.isSome_ite,
    Bool.and_eq_true, decide_eq_true_eq]

theorem digitZeros_pos : ∀ z ∈ digitZeros, 0 < z := by decide +kernel

/-- Is there a digit among the code points from `first` to `last`? -/
def holdsDigit (first last : Nat) : Bool :=
  digitZeros.any fun z => z.ble last && first.blt (z + 10)

section

variable {first last : Nat} (h : holdsDigit first last = false)
include h

theorem not_isDigit_ofNat {n : Nat} (hfirst : first ≤ n) (hlast : n ≤ last) :
    isDigit (Char.ofNat n) = false := by
  refine Bool.eq_false_iff.mpr fun hd => ?_
  obtain ⟨z, hz, hle, hlt⟩ := isDigit_iff.mp hd
  have hapart := List.any_eq_false.mp h z hz
  simp only [Bool.and_eq_true, Nat.ble_eq, Nat.blt_eq, not_and] at hapart
  by_cases hn : n.isValidChar
  · rw [Char.ofNat, dif_pos hn] at hle hlt
    exact hapart (Nat.le_trans hle hlast) (Nat.lt_of_le_of_lt hfirst hlt)
  · -- what is no code point becomes the character zero, before every digit
    rw [Char.ofNat, dif_neg hn] at hle
    have hpos := digitZeros_pos z hz
    exact absurd hle (Nat.not_le_of_gt hpos)

theorem not_isDigit_of_le {c : Char} (hfirst : first ≤ c.toNat) (hlast : c.toNat ≤ last) :
    isDigit c = false :=
  Char.ofNat_toNat c ▸ not_isDigit_ofNat h hfirst hlast

end

/-- No digit is in a run of the case table, and none among the partners in it. -/
theorem holdsDigit_eq_false_of_mem_lowerRuns :
    ∀ r ∈ lowerRuns, holdsDigit r.first r.last = false ∧
      holdsDigit (r.first + r.shift).toNat (r.last + r.shift).toNat = false := by decide +kernel

theorem not_isDigit_of_mem_lowerExpansions :
    ∀ e ∈ lowerExpansions, isDigit (Char.ofNat e.1) = false ∧
      ∀ n ∈ e.2, isDigit (Char.ofNat n) = false := by decide +kernel

theorem CaseRun.partner?_eq_some {r : CaseRun} {n : Nat} {d : Char} (h : r.partner? n = some d) :
    r.first ≤ n ∧ n ≤ r.last ∧ d = Char.ofNat (Int.toNat (n + r.shift)) := by
  simp only [partner?, Option.ite_none_right_eq_some, Bool.and_eq_true, decide_eq_true_eq,
    Option.some.injEq] at h
  exact ⟨h.1.1.1, h.1.1.2, h.2.symm⟩

/-- Neither a character of a run nor its partner is a digit. -/
theorem not_isDigit_of_partner? {r : CaseRun} (hr : r ∈ lowerRuns) {c d : Char}
    (h : r.partner? c.toNat = some d) : isDigit c = false ∧ isDigit d = false := by
  obtain ⟨hfirst, hlast, rfl⟩ := CaseRun.partner?_eq_some h
  obtain ⟨hrun, hpartners⟩ := holdsDigit_eq_false_of_mem_lowerRuns r hr
  exact ⟨not_isDigit_of_le hrun hfirst hlast, not_isDigit_ofNat hpartners (by omega) (by omega)⟩

/-! ## Small forms -/

/-- A capital letter of ASCII is 32 places before its small one. -/
theorem toNat_toLower {c : Char} (h : c.val ≥ 'A'.val ∧ c.val ≤ 'Z'.val) :
    c.toLower.toNat = c.toNat + 32 := by
  have hlast : c.toNat ≤ 90 := h.2
  have hshift : ('a'.val - 'A'.val).toNat = 32 := rfl
  have hlt : c.toNat + 32 < 2 ^ 32 := by omega
  have hlower : c.toLower.val = c.val + ('a'.val - 'A'.val) := congrArg Char.val (dif_pos h)
  rw [Char.toNat, hlower, UInt32.toNat_add, hshift]
  exact Nat.mod_eq_of_lt hlt

theorem toLower_of_isDigit (c : Char) :
    isDigit c.toLower = isDigit c ∧ (isDigit c = true → c.toLower = c) := by
  by_cases h : c.val ≥ 'A'.val ∧ c.val ≤ 'Z'.val
  · have hcapitals : holdsDigit 65 90 = false := by decide
    have hsmalls : holdsDigit 97 122 = false := by decide
    have hsmall := toNat_toLower h
    obtain ⟨hfirst, hlast⟩ : 65 ≤ c.toNat ∧ c.toNat ≤ 90 := h
    have hno := not_isDigit_of_le hcapitals hfirst hlast
    have hnone : isDigit c.toLower = false :=
      not_isDigit_of_le hsmalls (by omega) (by omega)
    simp [hno, hnone]
  · have hsame : c.toLower = c := dif_neg h
    simp [hsame]

/-- A digit is its own small form. -/
theorem lowerChar_of_isDigit {c : Char} (h : isDigit c = true) : lowerChar c = [c] := by
  unfold lowerChar
  split
  · rw [(toLower_of_isDigit c).2 h]
  · have hexpansion : lowerExpansions.find? (·.1 == c.toNat) = none := by
      refine List.find?_eq_none.mpr fun e he hc => ?_
      have hno := (not_isDigit_of_mem_lowerExpansions e he).1
      rw [eq_of_beq hc, Char.ofNat_toNat, h] at hno
      cases hno
    have hrun : lowerRuns.findSome? (·.partner? c.toNat) = none := by
      refine List.findSome?_eq_none_iff.mpr fun r hr => ?_
      refine Option.eq_none_iff_forall_ne_some.mpr fun d hd => ?_
      have hno := (not_isDigit_of_partner? hr hd).1
      rw [h] at hno
      cases hno
    rw [caseForm, hexpansion, hrun]
    rfl

/-- What is in the small form of another character is no digit. -/
theorem isDigit_of_mem_lowerChar {c d : Char} (hc : isDigit c = false) (hd : d ∈ lowerChar c) :
    isDigit d = false := by
  unfold lowerChar at hd
  split at hd
  · rw [List.mem_singleton] at hd
    rw [hd, (toLower_of_isDigit c).1, hc]
  · rw [caseForm] at hd
    split at hd
    · rename_i e form he
      obtain ⟨n, hn, rfl⟩ := List.mem_map.mp hd
      exact (not_isDigit_of_mem_lowerExpansions _ (List.mem_of_find?_eq_some he)).2 n hn
    · rw [List.mem_singleton] at hd
      cases hrun : lowerRuns.findSome? (·.partner? c.toNat) with
      | none => rw [hd, hrun, Option.getD_none, hc]
      | some x =>
        obtain ⟨r, hr, hx⟩ := List.exists_of_findSome?_eq_some hrun
        rw [hd, hrun, Option.getD_some]
        exact (not_isDigit_of_partner? hr hx).2

theorem lowerChar_ne_nil (c : Char) : lowerChar c ≠ [] := by
  have hexpansions : ∀ e ∈ lowerExpansions, e.2 ≠ [] := by decide
  unfold lowerChar
  split
  · simp
  · rw [caseForm]
    split
    · rename_i e form he
      have := hexpansions _ (List.mem_of_find?_eq_some he)
      simpa using this
    · simp

/-- The small form of a text begins with a form of its first character: with the character itself
if that is a digit, and else with something that has no digit. -/
theorem lowerAfter_cons (before : List Char) (c : Char) (s : List Char) :
    ∃ form, lowerAfter before (c :: s) = form ++ lowerAfter (c :: before) s ∧ form ≠ [] ∧
      (isDigit c = true ∧ form = [c] ∨ ∀ d ∈ form, isDigit d = false) := by
  by_cases hsigma : c = 'Σ'
  · subst hsigma
    refine ⟨[if casedBeside before && !casedBeside s then 'ς' else 'σ'], rfl, by simp, Or.inr ?_⟩
    have hlow : isDigit 'ς' = false ∧ isDigit 'σ' = false := by decide +kernel
    intro d hd
    rw [List.mem_singleton] at hd
    rw [hd]
    split
    · exact hlow.1
    · exact hlow.2
  · refine ⟨lowerChar c, by rw [lowerAfter]; exact hsigma, lowerChar_ne_nil c, ?_⟩
    cases hc : isDigit c with
    | true => exact Or.inl ⟨rfl, lowerChar_of_isDigit hc⟩
    | false => exact Or.inr fun d hd => isDigit_of_mem_lowerChar hc hd

/-! ## Runs of digits -/

/-- Nothing but digits. -/
def AllDigits (run : List Char) : Prop := ∀ c ∈ run, isDigit c = true

theorem prefix_of_prefix_lowerAfter {run : List Char} (hrun : AllDigits run)
    (before s : List Char) (h : run <+: lowerAfter before s) : run <+: s := by
  induction s generalizing run before with
  | nil => exact h
  | cons c s ih =>
    cases run with
    | nil => exact List.nil_prefix
    | cons d run =>
      obtain ⟨form, hform, hne, hdigit⟩ := lowerAfter_cons before c s
      rw [hform] at h
      rcases hdigit with ⟨-, rfl⟩ | hno
      · obtain ⟨rfl, h⟩ := List.cons_prefix_cons.mp h
        exact List.cons_prefix_cons.mpr
          ⟨rfl, ih (fun x hx => hrun x (List.mem_cons_of_mem _ hx)) _ h⟩
      · obtain ⟨x, form, rfl⟩ := List.exists_cons_of_ne_nil hne
        obtain ⟨rfl, -⟩ := List.cons_prefix_cons.mp h
        have hd := hrun d List.mem_cons_self
        rw [hno d List.mem_cons_self] at hd
        cases hd

/-- A run of digits behind text without digits is in what follows that text. -/
theorem infix_of_infix_append {run form s : List Char} (hrun : AllDigits run)
    (hno : ∀ d ∈ form, isDigit d = false) (h : run <:+: form ++ s) : run <:+: s := by
  induction form with
  | nil => exact h
  | cons x form ih =>
    rcases List.infix_cons_iff.mp h with h | h
    · cases run with
      | nil => exact List.nil_infix
      | cons d run =>
        obtain ⟨rfl, -⟩ := List.cons_prefix_cons.mp h
        have hd := hrun d List.mem_cons_self
        rw [hno d List.mem_cons_self] at hd
        cases hd
    · exact ih (fun d hd => hno d (List.mem_cons_of_mem _ hd)) h

/-- A run of digits in the small letters of a text is in the text. -/
theorem infix_of_infix_lower {run : List Char} (hrun : AllDigits run) {s : List Char}
    (h : run <:+: lower s) : run <:+: s := by
  -- a final sigma depends on what stands before, so the induction is for any text before
  suffices hafter : ∀ before, run <:+: lowerAfter before s → run <:+: s from hafter [] h
  clear h
  induction s with
  | nil => exact fun _ h => h
  | cons c s ih =>
    intro before h
    obtain ⟨form, hform, -, hdigit⟩ := lowerAfter_cons before c s
    rw [hform] at h
    rcases hdigit with ⟨-, rfl⟩ | hno
    · rcases List.infix_cons_iff.mp h with hfront | h
      · exact (prefix_of_prefix_lowerAfter hrun before (c :: s) (hform ▸ hfront)).isInfix
      · exact (ih _ h).trans (List.suffix_cons c s).isInfix
    · exact (ih _ (infix_of_infix_append hrun hno h)).trans (List.suffix_cons c s).isInfix

theorem trim_isInfix (s : List Char) : trim s <:+: s := by
  have hstart (s : List Char) : trimStart s <:+ s := List.dropWhile_suffix _
  have hend : trim s <+: trimStart s := by
    have h := List.reverse_prefix.mpr (hstart (trimStart s).reverse)
    rwa [List.reverse_reverse] at h
  exact hend.isInfix.trans (hstart s).isInfix

/-- No run of digits in the text is longer than a bound. -/
def DigitsWithin (bound : Nat) (s : List Char) : Prop :=
  ∀ run, run <:+: s → AllDigits run → run.length ≤ bound

theorem DigitsWithin.of_length {bound : Nat} {s : List Char} (h : s.length ≤ bound) :
    DigitsWithin bound s :=
  fun _ hrun _ => hrun.length_le.trans h

end AskTable.Text

namespace AskTable.Question

open AskTable.Text AskTable.Number

/-! ## The digits of a limit -/

theorem after?_suffix {word : String} {s rest : List Char} (h : after? word s = some rest) :
    rest <:+ s := by
  simp only [after?, Option.ite_none_right_eq_some, Option.some.injEq] at h
  exact h.2 ▸ List.drop_suffix _ _

theorem dropBlanks?_suffix {s rest : List Char} (h : dropBlanks? s = some rest) : rest <:+ s := by
  cases s with
  | nil => cases h
  | cons c s =>
    simp only [dropBlanks?, Option.ite_none_right_eq_some, Option.some.injEq] at h
    exact h.2 ▸ (List.dropWhile_suffix _).trans (List.suffix_cons c s)

theorem afterWord?_suffix {words : List String} {s rest : List Char}
    (h : afterWord? words s = some rest) : rest <:+ s := by
  obtain ⟨word, -, h⟩ := List.exists_of_findSome?_eq_some h
  obtain ⟨middle, hword, hblanks⟩ := Option.bind_eq_some_iff.mp h
  exact (dropBlanks?_suffix hblanks).trans (after?_suffix hword)

theorem limitHere?_infix {s digits : List Char} (h : limitHere? s = some digits) :
    digits <:+: s ∧ AllDigits digits := by
  obtain ⟨rest, hrest, h⟩ := Option.bind_eq_some_iff.mp h
  have hdigits : digits = rest.takeWhile isDigit := by
    simp only [spanDigits] at h
    split at h
    · cases h
    · rename_i found after hne hspan
      obtain ⟨rfl, -⟩ := Prod.mk.inj hspan
      simp only [Option.ite_none_right_eq_some, Option.some.injEq] at h
      exact h.2.symm
  subst hdigits
  refine ⟨(List.takeWhile_prefix _).isInfix.trans (afterWord?_suffix hrest).isInfix, ?_⟩
  intro c hc
  exact List.mem_takeWhile_imp hc

/-- What is found at a boundary is found at some place of the text. -/
theorem firstAtWordAfter?_eq_some {α : Type} {pattern : List Char → Option α} {a : α}
    {s : List Char} {before : Option Char} (h : firstAtWordAfter? pattern before s = some a) :
    ∃ place, place <:+ s ∧ pattern place = some a := by
  induction s generalizing before with
  | nil => cases h
  | cons c s ih =>
    rw [firstAtWordAfter?, Option.orElse_eq_orElse, Option.orElse_eq_or, Option.or_eq_some_iff] at h
    rcases h with h | ⟨-, h⟩
    · exact ⟨c :: s, List.suffix_rfl, (Option.ite_none_right_eq_some.mp h).2⟩
    · obtain ⟨place, hplace, hpattern⟩ := ih h
      exact ⟨place, hplace.trans (List.suffix_cons c s), hpattern⟩

/-- The digits of a limit are a run of digits of the text. -/
theorem limitPhrase?_infix {s digits : List Char} (h : limitPhrase? s = some digits) :
    digits <:+: s ∧ AllDigits digits := by
  obtain ⟨place, hplace, hpattern⟩ := firstAtWordAfter?_eq_some h
  obtain ⟨hdigits, hall⟩ := limitHere?_infix hpattern
  exact ⟨hdigits.trans hplace.isInfix, hall⟩

/-- A limit can be read when no run of digits of the question is too long for a number. -/
theorem limitOf_eq_ok {question : String} (h : DigitsWithin maxDigits question.toList) :
    limitOf (normalized question) = .ok ((limitPhrase? (normalized question)).map natOf) := by
  unfold limitOf
  cases hphrase : limitPhrase? (normalized question) with
  | none => rfl
  | some digits =>
    obtain ⟨hdigits, hall⟩ := limitPhrase?_infix hphrase
    have hrun : digits <:+: question.toList :=
      (infix_of_infix_lower hall hdigits).trans (trim_isInfix _)
    have hlength := h digits hrun hall
    simp only [Option.map_some]
    rw [if_neg (by omega)]

end AskTable.Question

import AskTable.Proofs.DigitRuns
import AskTable.Proofs.PlainText
import Mathlib.Data.List.Basic

/-!
# Small forms between blanks

Of all letters only the capital sigma has a small form that depends on its neighbours, and it looks
no further than to a blank. So the small form of a text is made of those of its parts between
blanks, and it is the same for the capital and the small letters of ASCII.

* `lower_append_space`, `lower_append_of_blanks`: small forms around a space, and after blanks.
* `SameLetters`: the same text up to the case of ASCII letters; `SameLetters.lower_eq`.
* `StartsApart`, `EndsApart`: a space, or nothing, at an end of a text; `lower_append_of_endsApart`,
  `lower_append_of_startsApart`.
-/

namespace AskTable.Text

/-! ## Small forms at a blank -/

theorem lowerAfter_cons_of_ne {c : Char} (h : c ≠ 'Σ') (before s : List Char) :
    lowerAfter before (c :: s) = lowerChar c ++ lowerAfter (c :: before) s := by
  rw [lowerAfter]
  exact h

/-- A text of characters that are their own small forms. -/
theorem lower_of_forall {s : List Char} (h : ∀ c ∈ s, lowerChar c = [c]) : lower s = s := by
  have hafter (before : List Char) : lowerAfter before s = s := by
    induction s generalizing before with
    | nil => rfl
    | cons c s ih =>
      obtain ⟨hc, hs⟩ := List.forall_mem_cons.mp h
      have hne : c ≠ 'Σ' := by
        rintro rfl
        exact absurd hc (by decide +kernel)
      rw [lowerAfter_cons_of_ne hne, hc, ih hs, List.singleton_append]
  exact hafter []

theorem forall_lowerChar_of_all {s : List Char} (h : (s.all fun c => lowerChar c == [c]) = true) :
    ∀ c ∈ s, lowerChar c = [c] := by
  simpa using h

/-- Blanks are not cased and hide what is behind them, and they are their own small forms. -/
theorem uncased_of_isBlank {c : Char} (h : isBlank c = true) :
    inRanges transparentRanges c = false ∧ inRanges casedRanges c = false ∧
      lowerChar c = [c] ∧ c ≠ 'Σ' := by
  have hall : ∀ r ∈ blankRanges, ∀ k < 11, r.1 + k ≤ r.2 → r.2 < r.1 + 11 ∧
      inRanges transparentRanges (Char.ofNat (r.1 + k)) = false ∧
      inRanges casedRanges (Char.ofNat (r.1 + k)) = false ∧
      lowerChar (Char.ofNat (r.1 + k)) = [Char.ofNat (r.1 + k)] ∧ Char.ofNat (r.1 + k) ≠ 'Σ' := by
    decide +kernel
  obtain ⟨r, hr, hrange⟩ := List.any_eq_true.mp h
  rw [Bool.and_eq_true, decide_eq_true_eq, decide_eq_true_eq] at hrange
  obtain ⟨hlength, -⟩ := hall r hr 0 (by decide) (hrange.1.trans hrange.2)
  obtain ⟨-, hc⟩ := hall r hr (c.toNat - r.1) (by omega) (by omega)
  rwa [Nat.add_sub_of_le hrange.1, Char.ofNat_toNat] at hc

section

variable {blank : Char} (hblank : isBlank blank = true)

include hblank

theorem lowerAfter_blank (before s : List Char) :
    lowerAfter before (blank :: s) = blank :: lowerAfter (blank :: before) s := by
  obtain ⟨-, -, hform, hsigma⟩ := uncased_of_isBlank hblank
  rw [lowerAfter_cons_of_ne hsigma, hform, List.singleton_append]

theorem casedBeside_append_blank (side rest : List Char) :
    casedBeside (side ++ blank :: rest) = casedBeside side := by
  obtain ⟨hclear, hcased, -⟩ := uncased_of_isBlank hblank
  induction side with
  | nil => simp [casedBeside, hclear, hcased]
  | cons c side ih =>
    cases hc : inRanges transparentRanges c with
    | true => simpa [casedBeside, hc] using ih
    | false => simp [casedBeside, hc]

theorem lowerAfter_append_blank_before (before rest s : List Char) :
    lowerAfter (before ++ blank :: rest) s = lowerAfter before s := by
  induction s generalizing before with
  | nil => rfl
  | cons c s ih =>
    have hrest := ih (c :: before)
    rw [List.cons_append] at hrest
    by_cases hsigma : c = 'Σ'
    · subst hsigma
      rw [lowerAfter, lowerAfter, casedBeside_append_blank hblank, hrest]
    · rw [lowerAfter_cons_of_ne hsigma, lowerAfter_cons_of_ne hsigma, hrest]

theorem lowerAfter_append_blank (before s t : List Char) :
    lowerAfter before (s ++ blank :: t) = lowerAfter before s ++ blank :: lowerAfter [] t := by
  induction s generalizing before with
  | nil =>
    rw [List.nil_append, lowerAfter_blank hblank, ← List.nil_append (blank :: before),
      lowerAfter_append_blank_before hblank]
    rfl
  | cons c s ih =>
    rw [List.cons_append]
    by_cases hsigma : c = 'Σ'
    · subst hsigma
      rw [lowerAfter, lowerAfter, casedBeside_append_blank hblank, ih]
      rfl
    · rw [lowerAfter_cons_of_ne hsigma, lowerAfter_cons_of_ne hsigma, ih, List.append_assoc]

end

/-- The small forms of what stands before and after a space. -/
theorem lower_append_space (s t : List Char) :
    lower (s ++ ' ' :: t) = lower s ++ ' ' :: lower t :=
  lowerAfter_append_blank (by decide) [] s t

/-- Blanks in front of a text make no difference to its small form. -/
theorem lower_append_of_blanks {blanks : List Char} (h : ∀ c ∈ blanks, isBlank c = true)
    (s : List Char) : lower (blanks ++ s) = blanks ++ lower s := by
  induction blanks with
  | nil => rfl
  | cons c blanks ih =>
    obtain ⟨hc, hblanks⟩ := List.forall_mem_cons.mp h
    rw [List.cons_append, List.cons_append, ← ih hblanks]
    exact lowerAfter_append_blank hc [] [] _

/-- Nothing, or a space in front. -/
def StartsApart (s : List Char) : Prop := ∀ c ∈ s.head?, c = ' '

/-- Nothing, or a space at the end. -/
def EndsApart (s : List Char) : Prop := ∀ c ∈ s.getLast?, c = ' '

instance (s : List Char) : Decidable (StartsApart s) :=
  decidable_of_iff (s.head?.all (· == ' ') = true) (by simp [StartsApart, Option.all_eq_true])

instance (s : List Char) : Decidable (EndsApart s) :=
  decidable_of_iff (s.getLast?.all (· == ' ') = true) (by simp [EndsApart, Option.all_eq_true])

theorem startsApart_nil : StartsApart [] := by simp [StartsApart]

theorem endsApart_nil : EndsApart [] := by simp [EndsApart]

theorem StartsApart.cases {s : List Char} (h : StartsApart s) : s = [] ∨ ∃ t, s = ' ' :: t := by
  cases s with
  | nil => exact Or.inl rfl
  | cons c s =>
    obtain rfl := h c rfl
    exact Or.inr ⟨s, rfl⟩

theorem EndsApart.cases {s : List Char} (h : EndsApart s) : s = [] ∨ ∃ t, s = t ++ [' '] := by
  rcases List.eq_nil_or_concat' s with rfl | ⟨t, c, rfl⟩
  · exact Or.inl rfl
  · obtain rfl := h c (by simp)
    exact Or.inr ⟨t, rfl⟩

theorem lower_append_of_endsApart {s : List Char} (h : EndsApart s) (t : List Char) :
    lower (s ++ t) = lower s ++ lower t := by
  rcases h.cases with rfl | ⟨u, rfl⟩
  · rfl
  · have hu : lower (u ++ [' ']) = lower u ++ [' '] := lower_append_space u []
    rw [List.append_assoc, List.singleton_append, lower_append_space, hu]
    exact (List.append_assoc _ [' '] _).symm

theorem lower_append_of_startsApart (s : List Char) {t : List Char} (h : StartsApart t) :
    lower (s ++ t) = lower s ++ lower t := by
  rcases h.cases with rfl | ⟨u, rfl⟩
  · rw [List.append_nil]
    exact (List.append_nil _).symm
  · rw [lower_append_space, ← List.nil_append (' ' :: u), lower_append_space]
    rfl

theorem EndsApart.lower {s : List Char} (h : EndsApart s) : EndsApart (lower s) := by
  rcases h.cases with rfl | ⟨u, rfl⟩
  · exact h
  · have hu : Text.lower (u ++ [' ']) = Text.lower u ++ [' '] := lower_append_space u []
    rw [hu]
    intro c hc
    simpa [eq_comm] using hc

theorem StartsApart.lower {s : List Char} (h : StartsApart s) : StartsApart (lower s) := by
  rcases h.cases with rfl | ⟨u, rfl⟩
  · exact h
  · rw [← List.nil_append (' ' :: u), lower_append_space]
    intro c hc
    exact (Option.some.inj hc).symm

/-! ## The case of ASCII letters -/

theorem isAlpha_iff {c : Char} : c.isAlpha = true ↔
    (65 ≤ c.toNat ∧ c.toNat ≤ 90) ∨ (97 ≤ c.toNat ∧ c.toNat ≤ 122) := by
  have hupper : c.isUpper = decide (c.val ≥ 65 ∧ c.val ≤ 90) := rfl
  have hlower : c.isLower = (decide (c.val ≥ 97) && decide (c.val ≤ 122)) := rfl
  have halpha : c.isAlpha = (c.isUpper || c.isLower) := rfl
  simp [halpha, hupper, hlower, UInt32.le_iff_toNat_le]

/-- Characters with one small form are the same, or letters of ASCII. -/
theorem eq_or_isAlpha_of_toLower_eq {c d : Char} (h : c.toLower = d.toLower) :
    c = d ∨ c.isAlpha = true ∧ d.isAlpha = true := by
  have hcapital {c : Char} (hc : c.val ≥ 'A'.val ∧ c.val ≤ 'Z'.val) :
      c.isAlpha = true ∧ c.toLower.isAlpha = true := by
    have hsmall := toNat_toLower hc
    have hrange : 65 ≤ c.toNat ∧ c.toNat ≤ 90 := hc
    rw [isAlpha_iff, isAlpha_iff]
    omega
  by_cases hc : c.val ≥ 'A'.val ∧ c.val ≤ 'Z'.val <;>
    by_cases hd : d.val ≥ 'A'.val ∧ d.val ≤ 'Z'.val
  · exact Or.inr ⟨(hcapital hc).1, (hcapital hd).1⟩
  · have hsame : d.toLower = d := dif_neg hd
    exact Or.inr ⟨(hcapital hc).1, hsame ▸ h ▸ (hcapital hc).2⟩
  · have hsame : c.toLower = c := dif_neg hc
    exact Or.inr ⟨hsame ▸ h ▸ (hcapital hd).2, (hcapital hd).1⟩
  · have hsame : c.toLower = c := dif_neg hc
    have hother : d.toLower = d := dif_neg hd
    exact Or.inl (hsame ▸ hother ▸ h)

/-- The letters of ASCII are cased, and they hide nothing. -/
theorem cased_of_isAlpha {c : Char} (h : c.isAlpha = true) :
    inRanges casedRanges c = true ∧ inRanges transparentRanges c = false := by
  have hall : ∀ n < 128, (Char.ofNat n).isAlpha = true →
      inRanges casedRanges (Char.ofNat n) = true ∧
        inRanges transparentRanges (Char.ofNat n) = false := by decide +kernel
  have hrange := isAlpha_iff.mp h
  have hc := hall c.toNat (by omega)
  rw [Char.ofNat_toNat] at hc
  exact hc h

/-- What small forms and trimming ask of a character does not depend on the case of a letter of
ASCII. -/
theorem alike_of_toLower_eq {c d : Char} (h : c.toLower = d.toLower) :
    lowerChar c = lowerChar d ∧ (c = 'Σ' ↔ d = 'Σ') ∧
      inRanges transparentRanges c = inRanges transparentRanges d ∧
      inRanges casedRanges c = inRanges casedRanges d ∧ isBlank c = isBlank d := by
  rcases eq_or_isAlpha_of_toLower_eq h with rfl | ⟨hc, hd⟩
  · simp
  · have hletter {c : Char} (hc : c.isAlpha = true) :
        lowerChar c = [c.toLower] ∧ c ≠ 'Σ' ∧ isBlank c = false := by
      have hrange := isAlpha_iff.mp hc
      refine ⟨if_pos (by omega), ?_, isBlank_of_isPlain (by simp [isPlain, Char.isAlphanum, hc])⟩
      rintro rfl
      exact absurd hc (by decide)
    obtain ⟨hlower, hsigma, hblank⟩ := hletter hc
    obtain ⟨hlower', hsigma', hblank'⟩ := hletter hd
    obtain ⟨hcased, hclear⟩ := cased_of_isAlpha hc
    obtain ⟨hcased', hclear'⟩ := cased_of_isAlpha hd
    refine ⟨?_, iff_of_false hsigma hsigma', ?_, ?_, ?_⟩
    · rw [hlower, hlower', h]
    · rw [hclear, hclear']
    · rw [hcased, hcased']
    · rw [hblank, hblank']

/-- The same text up to the case of ASCII letters. -/
def SameLetters (s t : List Char) : Prop := s.map Char.toLower = t.map Char.toLower

instance (s t : List Char) : Decidable (SameLetters s t) :=
  inferInstanceAs (Decidable (s.map Char.toLower = t.map Char.toLower))

namespace SameLetters

variable {s t : List Char}

theorem cases_cons {c : Char} (h : SameLetters (c :: s) t) :
    ∃ d u, t = d :: u ∧ c.toLower = d.toLower ∧ SameLetters s u := by
  cases t with
  | nil => cases h
  | cons d u =>
    rw [SameLetters, List.map_cons, List.map_cons, List.cons.injEq] at h
    exact ⟨d, u, rfl, h⟩

theorem casedBeside_eq (h : SameLetters s t) : casedBeside s = casedBeside t := by
  induction s generalizing t with
  | nil =>
    rw [List.map_eq_nil_iff.mp (Eq.symm h)]
  | cons c s ih =>
    obtain ⟨d, u, rfl, hcd, hrest⟩ := h.cases_cons
    obtain ⟨-, -, hclear, hcased, -⟩ := alike_of_toLower_eq hcd
    have hrest := ih hrest
    cases hc : inRanges transparentRanges c with
    | true => simpa [casedBeside, hc, ← hclear] using hrest
    | false => simp [casedBeside, hc, ← hclear, hcased]

theorem lowerAfter_eq {before other : List Char} (hbefore : SameLetters before other)
    (h : SameLetters s t) : lowerAfter before s = lowerAfter other t := by
  induction s generalizing before other t with
  | nil =>
    rw [List.map_eq_nil_iff.mp (Eq.symm h)]
    rfl
  | cons c s ih =>
    obtain ⟨d, u, rfl, hcd, hrest⟩ := h.cases_cons
    obtain ⟨hlower, hsigma, -⟩ := alike_of_toLower_eq hcd
    have hnext : SameLetters (c :: before) (d :: other) := by
      rw [SameLetters, List.map_cons, List.map_cons, hcd, hbefore]
    have hafter := ih hnext hrest
    by_cases hc : c = 'Σ'
    · obtain rfl := hsigma.mp hc
      subst hc
      rw [lowerAfter, lowerAfter, hbefore.casedBeside_eq, hrest.casedBeside_eq, hafter]
    · rw [lowerAfter_cons_of_ne hc, lowerAfter_cons_of_ne (hsigma.not.mp hc), hlower, hafter]

/-- The case of ASCII letters makes no difference to small forms. -/
theorem lower_eq (h : SameLetters s t) : lower s = lower t :=
  lowerAfter_eq (Eq.refl (([] : List Char).map Char.toLower)) h

end SameLetters

end AskTable.Text

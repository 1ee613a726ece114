import AskTable.Cell.Numeric
import AskTable.Proofs.WholeNumerals

/-!
# The longest numeral at the front of a text

A text is read by the first digits, point and exponent that are met, without going back. What is
read is still the longest numeral that the text begins with, and the rest of the text does not
matter.

* `IsNumeral`: the texts of numerals; `IsLongest`: the longest front of a text of some form.
* `read?_sound`: what is read is a numeral at the front of the text.
* `read?_text_append`: of a text that begins with a numeral, one at least as long is read.
* `isLongest_of_read?`, `not_isNumeral_of_read?`: reading finds the longest numeral, or there is
  none.
* `number?_text_longest`: the number that a text reads as.
-/

namespace AskTable

open AskTable.Text

namespace Number

/-- The texts of numerals. -/
def IsNumeral (p : List Char) : Prop := ∃ n : Numeral, n.IsWellFormed ∧ n.text = p

theorem IsNumeral.ne_nil {p : List Char} (h : IsNumeral p) : p ≠ [] := by
  obtain ⟨n, hn, rfl⟩ := h
  rw [n.text_eq]
  exact List.append_ne_nil_of_right_ne_nil _
    (List.append_ne_nil_of_left_ne_nil hn.mantissa.text_ne_nil _)

/-- The longest front of a text that has some form. -/
structure IsLongest (form : List Char → Prop) (s p : List Char) : Prop where
  front : p <+: s
  hasForm : form p
  longest : ∀ q, q <+: s → form q → q.length ≤ p.length

theorem IsLongest.unique {form : List Char → Prop} {s p q : List Char} (h : IsLongest form s p)
    (h' : IsLongest form s q) : p = q :=
  have hprefix := List.prefix_of_prefix_length_le h.front h'.front (h'.longest p h.front h.hasForm)
  hprefix.eq_of_length_le (h.longest q h'.front h'.hasForm)

/-! ## What is read is a numeral -/

theorem spanDigits_sound {s digits rest : List Char} (h : spanDigits s = (digits, rest)) :
    AreDigits digits ∧ s = digits ++ rest := by
  obtain ⟨rfl, rfl⟩ := Prod.mk.inj h
  exact ⟨fun c hc => List.mem_takeWhile_imp hc, List.takeWhile_append_dropWhile.symm⟩

theorem spanSign_sound {s rest : List Char} {sign : Option Char} (h : spanSign s = (sign, rest)) :
    IsSign sign ∧ s = sign.toList ++ rest := by
  have hwhole := spanSign_append s
  rw [h] at hwhole
  refine ⟨?_, hwhole.symm⟩
  cases s with
  | nil =>
    cases h
    exact Or.inl rfl
  | cons c s =>
    rw [spanSign] at h
    split at h
    · rename_i hc
      cases h
      rw [Bool.or_eq_true, beq_iff_eq, beq_iff_eq] at hc
      rcases hc with rfl | rfl
      · exact Or.inr (Or.inl rfl)
      · exact Or.inr (Or.inr rfl)
    · cases h
      exact Or.inl rfl

theorem readExponent?_sound {s rest : List Char} {e : ExponentPart}
    (h : readExponent? s = some (e, rest)) : e.IsWellFormed ∧ s = e.text ++ rest := by
  cases s with
  | nil => cases h
  | cons c s =>
    rw [readExponent?] at h
    split at h
    · rename_i hc
      generalize hsign : spanSign s = signed at h
      obtain ⟨sign, unsigned⟩ := signed
      obtain ⟨hisSign, rfl⟩ := spanSign_sound hsign
      dsimp only at h
      split at h
      · cases h
      · rename_i digits rest' hne hspan
        obtain ⟨hdigits, rfl⟩ := spanDigits_sound hspan
        cases h
        refine ⟨⟨by simpa using hc, hisSign, hdigits, hne⟩, ?_⟩
        simp only [ExponentPart.text, List.cons_append, List.append_assoc]
    · cases h

theorem readMantissa?_sound {s rest whole fraction : List Char} {point : Bool}
    (h : readMantissa? s = some ((whole, point, fraction), rest)) :
    IsMantissa whole point fraction ∧ s = mantissaText whole point fraction ++ rest := by
  rw [readMantissa?] at h
  split at h
  · rename_i after hspan
    obtain ⟨-, rfl⟩ := spanDigits_sound hspan
    split at h
    · cases h
    · rename_i digits rest' hne hafter
      obtain ⟨hdigits, rfl⟩ := spanDigits_sound hafter
      cases h
      exact ⟨⟨nofun, hdigits, nofun, Or.inr hne⟩, rfl⟩
  · cases h
  · rename_i digits after hne hspan
    obtain ⟨hdigits, rfl⟩ := spanDigits_sound hspan
    cases h
    refine ⟨⟨hdigits, fun c hc => List.mem_takeWhile_imp hc, nofun, Or.inl hne⟩, ?_⟩
    simp [mantissaText, List.takeWhile_append_dropWhile]
  · rename_i digits after hne _ hspan
    obtain ⟨hdigits, rfl⟩ := spanDigits_sound hspan
    cases h
    exact ⟨⟨hdigits, nofun, fun _ => rfl, Or.inl hne⟩, by simp [mantissaText]⟩

/-- What is read is a numeral, and the text goes on after it. -/
theorem read?_sound {s rest : List Char} {n : Numeral} (h : Numeral.read? s = some (n, rest)) :
    n.IsWellFormed ∧ s = n.text ++ rest := by
  rw [Numeral.read?] at h
  generalize hsign : spanSign s = signed at h
  obtain ⟨sign, unsigned⟩ := signed
  obtain ⟨hisSign, rfl⟩ := spanSign_sound hsign
  dsimp only at h
  split at h
  · cases h
  · rename_i whole point fraction after hread
    obtain ⟨hmantissa, rfl⟩ := readMantissa?_sound hread
    split at h
    · cases h
      exact ⟨⟨hisSign, hmantissa, nofun⟩, by simp [Numeral.text, mantissaText]⟩
    · rename_i e rest' hexponent
      obtain ⟨he, rfl⟩ := readExponent?_sound hexponent
      cases h
      refine ⟨⟨hisSign, hmantissa, fun e' he' => ?_⟩, by simp [Numeral.text, mantissaText]⟩
      cases he'
      exact he

/-! ## No longer numeral is missed -/

theorem spanDigits_append_left {digits : List Char} (h : AreDigits digits) (s : List Char) :
    spanDigits (digits ++ s) = (digits ++ s.takeWhile isDigit, s.dropWhile isDigit) := by
  rw [spanDigits, List.takeWhile_append_of_pos h, List.dropWhile_append_of_pos h]

theorem readMantissa?_of_point {s whole after : List Char}
    (h : spanDigits s = (whole, '.' :: after)) (hne : whole ≠ [] ∨ (spanDigits after).1 ≠ []) :
    readMantissa? s = some ((whole, true, (spanDigits after).1), (spanDigits after).2) := by
  obtain ⟨digits, rest, hrest⟩ : ∃ digits rest, spanDigits after = (digits, rest) :=
    ⟨_, _, rfl⟩
  rw [hrest] at hne ⊢
  cases whole with
  | nil =>
    obtain ⟨d, more, rfl⟩ := List.exists_cons_of_ne_nil (hne.resolve_left (· rfl))
    simp only [readMantissa?, h, hrest]
  | cons d whole => simp only [readMantissa?, h, hrest]

theorem readMantissa?_of_no_point {s whole after : List Char} (h : spanDigits s = (whole, after))
    (hne : whole ≠ []) (hpoint : ∀ c ∈ after.head?, c ≠ '.') :
    readMantissa? s = some ((whole, false, []), after) := by
  obtain ⟨d, whole, rfl⟩ := List.exists_cons_of_ne_nil hne
  rw [readMantissa?, h]
  cases after with
  | nil => rfl
  | cons c after =>
    have hc := hpoint c rfl
    dsimp only
    split
    · rename_i heq
      cases heq
    · rename_i heq
      cases heq
    · rename_i heq
      cases heq
      exact absurd rfl hc
    · rename_i heq
      cases heq
      rfl

/-- Of a text that begins with a mantissa, this mantissa is read, and perhaps more. -/
theorem readMantissa?_append {whole fraction : List Char} {point : Bool}
    (h : IsMantissa whole point fraction) (s : List Char) :
    ∃ whole' point' fraction' more rest,
      readMantissa? (mantissaText whole point fraction ++ s) =
        some ((whole', point', fraction'), rest) ∧
      s = more ++ rest ∧
      mantissaText whole' point' fraction' = mantissaText whole point fraction ++ more := by
  have hs := List.takeWhile_append_dropWhile (p := isDigit) (l := s)
  cases point with
  | true =>
    have hspan : spanDigits (mantissaText whole true fraction ++ s) =
        (whole, '.' :: (fraction ++ s)) := by
      have hhead : ∀ c ∈ ('.' :: (fraction ++ s)).head?, isDigit c = false := by simp; decide
      have hstop := span_of_head? h.before hhead
      simp only [mantissaText, if_true, List.append_assoc, List.cons_append, spanDigits, hstop.1,
        hstop.2]
    have hfraction := spanDigits_append_left h.after s
    have hread := readMantissa?_of_point hspan (by
      rw [hfraction]
      exact h.ne_nil.imp_right fun hne => List.append_ne_nil_of_left_ne_nil hne _)
    rw [hfraction] at hread
    exact ⟨_, _, _, s.takeWhile isDigit, _, hread, hs.symm, by simp [mantissaText]⟩
  | false =>
    have hnil := h.pointless rfl
    subst hnil
    have hwhole := h.ne_nil.resolve_right (· rfl)
    have hspan : spanDigits (mantissaText whole false [] ++ s) =
        (whole ++ s.takeWhile isDigit, s.dropWhile isDigit) := by
      rw [mantissaText, if_neg Bool.false_ne_true, List.append_nil, spanDigits_append_left h.before]
    have hne : whole ++ s.takeWhile isDigit ≠ [] := List.append_ne_nil_of_left_ne_nil hwhole _
    -- A point after the further digits is read as well.
    by_cases hpoint : ∀ c ∈ (s.dropWhile isDigit).head?, c ≠ '.'
    · exact ⟨_, _, _, s.takeWhile isDigit, _, readMantissa?_of_no_point hspan hne hpoint, hs.symm,
        by simp [mantissaText]⟩
    · obtain ⟨after, hafter⟩ : ∃ after, s.dropWhile isDigit = '.' :: after := by
        simpa [List.head?_eq_some_iff] using hpoint
      rw [hafter] at hspan hs
      refine ⟨_, _, _, s.takeWhile isDigit ++ '.' :: (spanDigits after).1, _,
        readMantissa?_of_point hspan (Or.inl hne), ?_, by simp [mantissaText]⟩
      rw [List.append_assoc, List.cons_append, spanDigits_append, hs]

/-- Of a text that begins with an exponent, one at least as long is read. -/
theorem readExponent?_append {e : ExponentPart} (h : e.IsWellFormed) (s : List Char) :
    ∃ e' rest, readExponent? (e.text ++ s) = some (e', rest) ∧ e.text.length ≤ e'.text.length := by
  have hletter : (e.letter == 'e' || e.letter == 'E') = true := by simpa using h.letter
  have hsign : spanSign (e.sign.toList ++ (e.digits ++ s)) = (e.sign, e.digits ++ s) := by
    refine spanSign_of_isSign h.sign fun c hc => ?_
    rw [List.head?_append_of_ne_nil _ h.ne_nil] at hc
    exact head?_ne_sign_of_areDigits h.digits c hc
  have hdigits := spanDigits_append_left h.digits s
  refine ⟨⟨e.letter, e.sign, e.digits ++ s.takeWhile isDigit⟩, s.dropWhile isDigit, ?_, ?_⟩
  · obtain ⟨d, digits, hd⟩ := List.exists_cons_of_ne_nil
      (List.append_ne_nil_of_left_ne_nil h.ne_nil (s.takeWhile isDigit))
    rw [ExponentPart.text, List.cons_append, List.cons_append, readExponent?, if_pos hletter,
      List.append_assoc, hsign]
    dsimp only
    rw [hdigits, hd]
  · simp only [ExponentPart.text, List.length_append, List.length_cons]
    omega

/-- Of a text that begins with a numeral, one at least as long is read. -/
theorem read?_text_append {n : Numeral} (h : n.IsWellFormed) (s : List Char) :
    ∃ n' rest, Numeral.read? (n.text ++ s) = some (n', rest) ∧
      n.text.length ≤ n'.text.length := by
  obtain ⟨whole, point, fraction, more, rest, hread, hs, htext⟩ :=
    readMantissa?_append h.mantissa (n.tail ++ s)
  have hlength (exponent : Option ExponentPart) (sign : Option Char) :
      (Numeral.mk sign whole point fraction exponent).text.length =
        sign.toList.length + (n.mantissa.length + more.length) +
          (Numeral.mk sign whole point fraction exponent).tail.length := by
    simp only [Numeral.text_eq, Numeral.mantissa, htext, List.length_append]
    omega
  have hown : n.text.length = n.sign.toList.length + n.mantissa.length + n.tail.length := by
    rw [n.text_eq, List.length_append, List.length_append, Nat.add_assoc]
  rw [Numeral.read?, h.spanSign_text]
  dsimp only
  rw [hread]
  dsimp only
  cases hexponent : n.exponent with
  | none =>
    have htail : n.tail = [] := by rw [Numeral.tail, hexponent]; rfl
    rw [htail, List.length_nil] at hown
    cases readExponent? rest with
    | none =>
      refine ⟨_, _, rfl, ?_⟩
      rw [hlength]
      omega
    | some e =>
      refine ⟨_, _, rfl, ?_⟩
      rw [hlength]
      omega
  | some e =>
    have he := h.exponent e hexponent
    have htail : n.tail = e.text := by rw [Numeral.tail, hexponent]; rfl
    -- The letter of the exponent ends the mantissa, so no more of it was read.
    have hmore : more = [] := by
      cases more with
      | nil => rfl
      | cons c more =>
        rw [htail, ExponentPart.text, List.cons_append, List.cons_append, List.cons_append,
          List.cons.injEq] at hs
        obtain ⟨hmantissa, -⟩ := readMantissa?_sound hread
        have hmem : e.letter ∈ mantissaText whole point fraction := by
          rw [htext, hs.1]
          simp
        have hmark := isPowerMark_iff.mpr he.letter
        rcases hmantissa.of_mem_text hmem with hdigit | hpoint
        · rw [isPowerMark_of_isDigit hdigit] at hmark
          cases hmark
        · rw [hpoint] at hmark
          cases hmark
    subst hmore
    rw [List.nil_append, htail] at hs
    obtain ⟨e', rest', hread', hle⟩ := readExponent?_append he s
    rw [← hs, hread']
    refine ⟨_, _, rfl, ?_⟩
    rw [hlength, hown, htail]
    simp only [Numeral.tail, Option.map_some, Option.getD_some]
    omega

/-! ## The longest numeral -/

/-- What is read is the longest numeral in front. -/
theorem isLongest_of_read? {s rest : List Char} {n : Numeral}
    (h : Numeral.read? s = some (n, rest)) : IsLongest IsNumeral s n.text where
  front := ⟨rest, (read?_sound h).2.symm⟩
  hasForm := ⟨n, (read?_sound h).1, rfl⟩
  longest := by
    rintro q ⟨t, rfl⟩ ⟨m, hm, rfl⟩
    obtain ⟨n', rest', hread, hle⟩ := read?_text_append hm t
    rw [h] at hread
    cases hread
    exact hle

/-- Where nothing is read, no numeral is in front. -/
theorem not_isNumeral_of_read? {s : List Char} (h : Numeral.read? s = none) :
    ∀ p, p <+: s → ¬ IsNumeral p := by
  rintro p ⟨t, rfl⟩ ⟨m, hm, rfl⟩
  obtain ⟨n, rest, hread, -⟩ := read?_text_append hm t
  rw [h] at hread
  cases hread

end Number

/-! ## The number that a text reads as -/

open AskTable.Number

/-- The longest numeral in front of a text, after its blanks. -/
abbrev LeadsWith (s : String) (p : List Char) : Prop := IsLongest IsNumeral (trimStart s.toList) p

/-- No numeral is in front of a text, after its blanks. -/
def LeadsWithNone (s : String) : Prop := ∀ p, p <+: trimStart s.toList → ¬ IsNumeral p

theorem LeadsWithNone.not_leadsWith {s : String} (h : LeadsWithNone s) (p : List Char) :
    ¬ LeadsWith s p :=
  fun hp => h p hp.front hp.hasForm

/-- A text leads with a numeral and reads as its value, or with none and reads as nothing. -/
theorem leads_cases (s : String) :
    (∃ n : Numeral, n.IsWellFormed ∧ LeadsWith s n.text ∧
      (Cell.text s).number? = .ok (some n.value)) ∨
    LeadsWithNone s ∧ (Cell.text s).number? = .ok none := by
  have hnumber : (Cell.text s).number? = .ok (leadingNumber? s) := rfl
  rw [hnumber, leadingNumber?]
  cases hread : Numeral.read? (trimStart s.toList) with
  | none => exact Or.inr ⟨not_isNumeral_of_read? hread, rfl⟩
  | some found =>
    obtain ⟨n, rest⟩ := found
    exact Or.inl ⟨n, (read?_sound hread).1, isLongest_of_read? hread, rfl⟩

theorem number?_eq_none_iff {s : String} : (Cell.text s).number? = .ok none ↔ LeadsWithNone s := by
  rcases leads_cases s with ⟨n, -, hlongest, hnumber⟩ | ⟨hnone, hnumber⟩
  · rw [hnumber]
    exact iff_of_false (by simp) fun hnone => hnone.not_leadsWith _ hlongest
  · exact iff_of_true hnumber hnone

/-- The numeral that a text leads with denotes the number that it reads as. -/
theorem LeadsWith.number? {s : String} {p : List Char} (h : LeadsWith s p) :
    ∃ x, Binary64.ofText? p = some x ∧ (Cell.text s).number? = .ok (some x) := by
  rcases leads_cases s with ⟨n, hn, hlongest, hnumber⟩ | ⟨hnone, -⟩
  · rw [h.unique hlongest]
    exact ⟨n.value, ofText?_text hn, hnumber⟩
  · exact absurd h (hnone.not_leadsWith p)

theorem trimStart_append_of_ne_nil {s : List Char} (h : trimStart s ≠ []) (t : List Char) :
    trimStart (s ++ t) = trimStart s ++ t := by
  have hfirst : ¬ s.dropWhile isBlank = [] := h
  rw [trimStart, List.dropWhile_append, if_neg (by simpa using hfirst), trimStart]

/-- Every numeral in front of one text has its match in length in front of another. -/
def NoLonger (s t : String) : Prop :=
  ∀ q, q <+: trimStart t.toList → IsNumeral q →
    ∃ p, p <+: trimStart s.toList ∧ IsNumeral p ∧ q.length ≤ p.length

/-- A text to which no longer numeral is appended leads with what it led with. -/
theorem LeadsWith.append {s t : String} {p : List Char} (h : LeadsWith s p)
    (hmore : NoLonger s (s ++ t)) : LeadsWith (s ++ t) p where
  front := by
    have hne : trimStart s.toList ≠ [] := fun hnil =>
      h.hasForm.ne_nil (List.prefix_nil.mp (hnil ▸ h.front))
    rw [String.toList_append, trimStart_append_of_ne_nil hne]
    exact h.front.trans (List.prefix_append _ _)
  hasForm := h.hasForm
  longest := fun q hq hform => by
    obtain ⟨p', hp', hform', hle⟩ := hmore q hq hform
    exact hle.trans (h.longest p' hp' hform')

/-- **A text reads as the longest numeral that it begins with, after blanks.** There is a longest
one or none at all; a text with none reads as nothing, and any other as the number that its longest
one denotes as a text of its own. What is appended does not matter, unless it makes the numeral
longer. -/
theorem number?_text_longest (s t : String) :
    ((∃ p, LeadsWith s p) ∨ LeadsWithNone s) ∧
      ((Cell.text s).number? = .ok none ↔ LeadsWithNone s) ∧
      (∀ p, LeadsWith s p →
        ∃ x, Binary64.ofText? p = some x ∧ (Cell.text s).number? = .ok (some x)) ∧
      (NoLonger s (s ++ t) → (Cell.text (s ++ t)).number? = (Cell.text s).number?) := by
  have hleads : (∃ p, LeadsWith s p) ∨ LeadsWithNone s :=
    (leads_cases s).imp (fun ⟨n, _, h, _⟩ => ⟨n.text, h⟩) And.left
  refine ⟨hleads, number?_eq_none_iff, fun p hp => hp.number?, fun hmore => ?_⟩
  rcases hleads with ⟨p, hp⟩ | hnone
  · obtain ⟨x, hx, hnumber⟩ := hp.number?
    obtain ⟨y, hy, happended⟩ := (hp.append hmore).number?
    rw [hx] at hy
    cases hy
    rw [hnumber, happended]
  · have happended : LeadsWithNone (s ++ t) := fun q hq hform => by
      obtain ⟨p, hp, hform', -⟩ := hmore q hq hform
      exact hnone p hp hform'
    rw [number?_eq_none_iff.mpr hnone, number?_eq_none_iff.mpr happended]

/-- Minus five, written without a whole part and with an exponent, stays what it is when a text that
would be an exponent follows the unit. -/
theorem number?_text_longest_units :
    LeadsWith "  -.5e1 units" "-.5e1".toList ∧ NoLonger "  -.5e1 units" ("  -.5e1 units" ++ "e7") ∧
      Binary64.ofText? "-.5e1".toList = some (.finite true (5 * unitsOfOne)) ∧
      (Cell.text "  -.5e1 units").number? = .ok (some (.finite true (5 * unitsOfOne))) ∧
      (Cell.text ("  -.5e1 units" ++ "e7")).number? =
        .ok (some (.finite true (5 * unitsOfOne))) := by
  let fiveBelow : Numeral := ⟨some '-', [], true, ['5'], some ⟨'e', none, ['1']⟩⟩
  have hread : Numeral.read? (trimStart "  -.5e1 units".toList) =
      some (fiveBelow, " units".toList) := by decide
  have hreadMore : Numeral.read? (trimStart ("  -.5e1 units" ++ "e7").toList) =
      some (fiveBelow, " unitse7".toList) := by decide
  have hleads : LeadsWith "  -.5e1 units" "-.5e1".toList := isLongest_of_read? hread
  have hmore : NoLonger "  -.5e1 units" ("  -.5e1 units" ++ "e7") := fun q hq hform =>
    ⟨_, hleads.front, hleads.hasForm, (isLongest_of_read? hreadMore).longest q hq hform⟩
  have hvalue : Binary64.ofText? "-.5e1".toList = some (.finite true (5 * unitsOfOne)) := by
    decide +kernel
  obtain ⟨-, -, hnumber, happend⟩ := number?_text_longest "  -.5e1 units" "e7"
  obtain ⟨x, hx, hreads⟩ := hnumber _ hleads
  cases hvalue.symm.trans hx
  exact ⟨hleads, hmore, hvalue, hreads, (happend hmore).trans hreads⟩

end AskTable

import AskTable.Number.Numeral
import AskTable.Proofs.PhrasePlaces

/-!
# Texts that are numbers

A numeral is written in five parts, and a text that is a number as a whole may be more than a
numeral: its digits may be grouped, blanks may stand around it, and the numbers without digits have
names. Every numeral is such a text, and denotes what it is read as.

* `Numeral.IsWellFormed`: what may stand in the parts of a numeral.
* `IsMantissa`, `mantissaText`: its digits and point, and how they are written.
* `Binary64.ofText?`: the number that a whole text denotes, if it denotes one.
* `ofText?_text`: the text of a numeral denotes its value.
-/

namespace AskTable.Number

open AskTable.Text

/-! ## The parts of a numeral -/

/-- Digits of any script; there may be none. -/
def AreDigits (s : List Char) : Prop := ∀ c ∈ s, isDigit c = true

/-- A sign, or none. -/
def IsSign (sign : Option Char) : Prop := sign = none ∨ sign = some '+' ∨ sign = some '-'

/-- An exponent has a letter, may have a sign, and has digits. -/
structure ExponentPart.IsWellFormed (e : ExponentPart) : Prop where
  letter : e.letter = 'e' ∨ e.letter = 'E'
  sign : IsSign e.sign
  digits : AreDigits e.digits
  ne_nil : e.digits ≠ []

/-- The mantissa of a numeral has digits before a point or after it. -/
structure IsMantissa (whole : List Char) (point : Bool) (fraction : List Char) : Prop where
  before : AreDigits whole
  after : AreDigits fraction
  /-- Only a point has digits after it. -/
  pointless : point = false → fraction = []
  ne_nil : whole ≠ [] ∨ fraction ≠ []

/-- A numeral may have a sign, has a mantissa, and may have an exponent. -/
structure Numeral.IsWellFormed (n : Numeral) : Prop where
  sign : IsSign n.sign
  mantissa : IsMantissa n.whole n.point n.fraction
  exponent : ∀ e ∈ n.exponent, e.IsWellFormed

/-- A mantissa as it is written. -/
def mantissaText (whole : List Char) (point : Bool) (fraction : List Char) : List Char :=
  whole ++ if point then '.' :: fraction else []

/-- The mantissa of a numeral as it is written. -/
abbrev Numeral.mantissa (n : Numeral) : List Char := mantissaText n.whole n.point n.fraction

/-- The exponent of a numeral as it is written. -/
def Numeral.tail (n : Numeral) : List Char := (n.exponent.map ExponentPart.text).getD []

theorem Numeral.text_eq (n : Numeral) : n.text = n.sign.toList ++ (n.mantissa ++ n.tail) := by
  simp only [text, mantissa, mantissaText, tail, List.append_assoc]

/-! ## Characters of numerals -/

theorem ne_of_isDigit {c d : Char} (hc : isDigit c = true) (hd : isDigit d = false) : c ≠ d := by
  rintro rfl
  rw [hc] at hd
  cases hd

theorem mem_of_isSign {sign : Option Char} (h : IsSign sign) {c : Char} (hc : c ∈ sign.toList) :
    c = '+' ∨ c = '-' := by
  rcases h with rfl | rfl | rfl
  · cases hc
  · exact Or.inl (List.mem_singleton.mp hc)
  · exact Or.inr (List.mem_singleton.mp hc)

/-- Is the character a letter before an exponent? -/
def isPowerMark (c : Char) : Bool := c == 'e' || c == 'E'

theorem isPowerMark_iff {c : Char} : isPowerMark c = true ↔ c = 'e' ∨ c = 'E' := by
  simp [isPowerMark]

theorem isDigit_eq_false_of_isPowerMark {c : Char} (h : isPowerMark c = true) :
    isDigit c = false := by
  rcases isPowerMark_iff.mp h with rfl | rfl <;> decide

theorem isPowerMark_of_isDigit {c : Char} (h : isDigit c = true) : isPowerMark c = false := by
  refine Bool.eq_false_iff.mpr fun hmark => ?_
  rw [isDigit_eq_false_of_isPowerMark hmark] at h
  cases h

theorem isMargin_of_isDigit {c : Char} (h : isDigit c = true) : isMargin c = false := by
  rw [isMargin, isBlank_of_isWord (isWord_of_isDigit h), Bool.false_and]

/-- What follows a sign begins with none. -/
theorem spanSign_of_isSign {sign : Option Char} (h : IsSign sign) {s : List Char}
    (hs : ∀ c ∈ s.head?, c ≠ '+' ∧ c ≠ '-') : spanSign (sign.toList ++ s) = (sign, s) := by
  rcases h with rfl | rfl | rfl
  · cases s with
    | nil => rfl
    | cons c s =>
      obtain ⟨hplus, hminus⟩ := hs c rfl
      simp [spanSign, hplus, hminus]
  · rfl
  · rfl

theorem head?_ne_sign_of_areDigits {s : List Char} (h : AreDigits s) :
    ∀ c ∈ s.head?, c ≠ '+' ∧ c ≠ '-' := by
  intro c hc
  have hdigit := h c (List.mem_of_mem_head? hc)
  exact ⟨ne_of_isDigit hdigit (by decide), ne_of_isDigit hdigit (by decide)⟩

section

variable {whole fraction : List Char} {point : Bool} (h : IsMantissa whole point fraction)
include h

theorem IsMantissa.text_ne_nil : mantissaText whole point fraction ≠ [] := by
  intro hnil
  obtain ⟨hwhole, hrest⟩ := List.append_eq_nil_iff.mp hnil
  cases point with
  | true => simp at hrest
  | false => exact h.ne_nil.elim (fun hne => hne hwhole) fun hne => hne (h.pointless rfl)

/-- A mantissa holds digits and a point. -/
theorem IsMantissa.of_mem_text {c : Char} (hc : c ∈ mantissaText whole point fraction) :
    isDigit c = true ∨ c = '.' := by
  rw [mantissaText, List.mem_append] at hc
  rcases hc with hc | hc
  · exact Or.inl (h.before c hc)
  · split at hc
    · rcases List.mem_cons.mp hc with rfl | hc
      · exact Or.inr rfl
      · exact Or.inl (h.after c hc)
    · cases hc

theorem IsMantissa.of_mem_head? {s : List Char} :
    ∀ c ∈ (mantissaText whole point fraction ++ s).head?, isDigit c = true ∨ c = '.' := by
  intro c hc
  rw [List.head?_append_of_ne_nil _ h.text_ne_nil] at hc
  exact h.of_mem_text (List.mem_of_mem_head? hc)

end

section

variable {n : Numeral} (h : n.IsWellFormed)
include h

theorem Numeral.IsWellFormed.spanSign_text (s : List Char) :
    spanSign (n.text ++ s) = (n.sign, n.mantissa ++ (n.tail ++ s)) := by
  rw [n.text_eq, List.append_assoc, List.append_assoc]
  refine spanSign_of_isSign h.sign fun c hc => ?_
  rcases h.mantissa.of_mem_head? c hc with hdigit | rfl
  · exact ⟨ne_of_isDigit hdigit (by decide), ne_of_isDigit hdigit (by decide)⟩
  · decide

end

/-! ## Texts that are numbers -/

/-- A run of digits that may be empty; single underscores may separate neighbours. -/
def ungrouped? (s : List Char) : Option (List Char) :=
  if s.isEmpty then some [] else groupedDigits? s

/-- The digits before a point and those after it, of which one may be missing, and the point with
those after it. -/
def pointed? (s : List Char) : Option (List Char × List Char) := do
  let whole ← ungrouped? (s.takeWhile (· != '.'))
  let fraction ← ungrouped? ((s.dropWhile (· != '.')).drop 1)
  if whole.isEmpty && fraction.isEmpty then none else some (whole, fraction)

/-- The power of ten that follows the digits: none, or a letter, an optional sign and digits. -/
def power? : List Char → Option Int
  | [] => some 0
  | _ :: s =>
    let (sign, unsigned) := spanSign s
    (groupedDigits? unsigned).map fun digits => signed sign (natOf digits)

/-- A number in digits. -/
def digital? (negative : Bool) (s : List Char) : Option Binary64 := do
  let (whole, fraction) ← pointed? (s.takeWhile fun c => !isPowerMark c)
  let power ← power? (s.dropWhile fun c => !isPowerMark c)
  return .ofScientific negative (natOf (whole ++ fraction)) (power - fraction.length)

/-- The numbers that are written by name, in letters of either case. -/
def named? (negative : Bool) (s : List Char) : Option Binary64 :=
  let name := s.map Char.toLower
  if name = "inf".toList ∨ name = "infinity".toList then some (.infinite negative)
  else if name = "nan".toList then some .nan
  else none

/-- A text without the blanks that may surround a number. -/
def withoutMargins (s : List Char) : List Char :=
  ((s.dropWhile isMargin).reverse.dropWhile isMargin).reverse

/-- The binary number that a whole text denotes; a text that is no number denotes none. -/
def Binary64.ofText? (s : List Char) : Option Binary64 :=
  let (sign, unsigned) := spanSign (withoutMargins s)
  (named? (sign == some '-') unsigned).or (digital? (sign == some '-') unsigned)

theorem groupedDigits?_of_areDigits {s : List Char} (h : AreDigits s) (hne : s ≠ []) :
    groupedDigits? s = some s := by
  induction s with
  | nil => exact absurd rfl hne
  | cons c s ih =>
    obtain ⟨hc, hs⟩ := List.forall_mem_cons.mp h
    cases s with
    | nil => simp [groupedDigits?, hc]
    | cons d s =>
      have hmark : d ≠ '_' := ne_of_isDigit (hs d List.mem_cons_self) (by decide)
      have hrest := ih hs (List.cons_ne_nil d s)
      rw [groupedDigits?.eq_4 c (d :: s) (by simp) (by simpa using fun heq => absurd heq hmark),
        hrest]
      simp [hc]

theorem ungrouped?_of_areDigits {s : List Char} (h : AreDigits s) : ungrouped? s = some s := by
  rw [ungrouped?]
  split
  · rename_i hempty
    rw [List.isEmpty_iff.mp hempty]
  · rename_i hempty
    exact groupedDigits?_of_areDigits h fun hnil => hempty (by rw [hnil]; rfl)

theorem IsMantissa.pointed? {whole fraction : List Char} {point : Bool}
    (h : IsMantissa whole point fraction) :
    pointed? (mantissaText whole point fraction) = some (whole, fraction) := by
  have hwhole : ∀ c ∈ whole, (c != '.') = true := fun c hc =>
    bne_iff_ne.mpr (ne_of_isDigit (h.before c hc) (by decide))
  have hsplit : (mantissaText whole point fraction).takeWhile (· != '.') = whole ∧
      ((mantissaText whole point fraction).dropWhile (· != '.')).drop 1 = fraction := by
    rw [mantissaText]
    cases hpoint : point with
    | true =>
      have hhead : ∀ c ∈ ('.' :: fraction).head?, (c != '.') = false := by simp
      have hspan := span_of_head? hwhole hhead
      simp only [if_true, hspan.1, hspan.2, List.drop_one, List.tail_cons, and_self]
    | false =>
      have hhead : ∀ c ∈ ([] : List Char).head?, (c != '.') = false := by simp
      have hspan := span_of_head? hwhole hhead
      simp only [Bool.false_eq_true, if_false, hspan.1, hspan.2, h.pointless hpoint, List.drop_nil,
        and_self]
  have hnonempty : (whole.isEmpty && fraction.isEmpty) = false := by
    rw [Bool.and_eq_false_iff]
    simpa using h.ne_nil
  simp only [Number.pointed?, hsplit.1, hsplit.2, ungrouped?_of_areDigits h.before,
    ungrouped?_of_areDigits h.after, Option.bind_eq_bind, Option.bind_some, hnonempty,
    Bool.false_eq_true, if_false]

section

variable {n : Numeral} (h : n.IsWellFormed)
include h

theorem Numeral.IsWellFormed.power?_tail :
    power? n.tail = some ((n.exponent.map ExponentPart.power).getD 0) := by
  rw [Numeral.tail]
  cases hexponent : n.exponent with
  | none => rfl
  | some e =>
    have he := h.exponent e hexponent
    have hspan := spanSign_of_isSign he.sign (head?_ne_sign_of_areDigits he.digits)
    simp only [Option.map_some, Option.getD_some, ExponentPart.text, List.cons_append, power?,
      hspan, groupedDigits?_of_areDigits he.digits he.ne_nil, ExponentPart.power]

/-- The letter of an exponent ends the mantissa. -/
theorem Numeral.IsWellFormed.span_mantissa :
    (n.mantissa ++ n.tail).takeWhile (fun c => !isPowerMark c) = n.mantissa ∧
      (n.mantissa ++ n.tail).dropWhile (fun c => !isPowerMark c) = n.tail := by
  refine span_of_head? (fun c hc => ?_) fun c hc => ?_
  · rcases h.mantissa.of_mem_text hc with hdigit | rfl
    · rw [isPowerMark_of_isDigit hdigit]
      rfl
    · rfl
  · rw [Numeral.tail] at hc
    cases hexponent : n.exponent with
    | none =>
      rw [hexponent] at hc
      cases hc
    | some e =>
      rw [hexponent] at hc
      cases hc
      rw [isPowerMark_iff.mpr (h.exponent e hexponent).letter]
      rfl

theorem Numeral.IsWellFormed.digital? (negative : Bool) :
    digital? negative (n.mantissa ++ n.tail) = some (.ofScientific negative
      (natOf (n.whole ++ n.fraction))
      ((n.exponent.map ExponentPart.power).getD 0 - n.fraction.length)) := by
  rw [Number.digital?, h.span_mantissa.1, h.span_mantissa.2, h.mantissa.pointed?, h.power?_tail]
  rfl

/-- What begins with a digit or a point is no name. -/
theorem Numeral.IsWellFormed.named? (negative : Bool) :
    named? negative (n.mantissa ++ n.tail) = none := by
  have hname {first : Char} (rest : List Char) (hno : isDigit first = false) (hne : first ≠ '.') :
      (n.mantissa ++ n.tail).map Char.toLower ≠ first :: rest := by
    intro heq
    obtain ⟨c, s, hs⟩ := List.exists_cons_of_ne_nil
      (List.append_ne_nil_of_left_ne_nil h.mantissa.text_ne_nil n.tail)
    have hhead := h.mantissa.of_mem_head? (s := n.tail) c (by rw [hs]; rfl)
    rw [hs, List.map_cons] at heq
    obtain rfl := (List.cons.inj heq).1
    rcases hhead with hdigit | rfl
    · rw [(toLower_of_isDigit c).1, hdigit] at hno
      cases hno
    · exact hne rfl
  have hinf : (n.mantissa ++ n.tail).map Char.toLower ≠ "inf".toList :=
    hname _ (by decide) (by decide)
  have hinfinity : (n.mantissa ++ n.tail).map Char.toLower ≠ "infinity".toList :=
    hname _ (by decide) (by decide)
  have hnan : (n.mantissa ++ n.tail).map Char.toLower ≠ "nan".toList :=
    hname _ (by decide) (by decide)
  simp only [Number.named?, hinf, hinfinity, hnan, or_self, if_false]

theorem Numeral.IsWellFormed.mem_tail {c : Char} (hc : c ∈ n.tail) :
    isDigit c = true ∨ c ∈ ['e', 'E', '+', '-'] := by
  rw [Numeral.tail] at hc
  cases hexponent : n.exponent with
  | none =>
    rw [hexponent] at hc
    cases hc
  | some e =>
    have he := h.exponent e hexponent
    rw [hexponent, Option.map_some, Option.getD_some, ExponentPart.text, List.cons_append,
      List.mem_cons, List.mem_append] at hc
    rcases hc with rfl | hc | hc
    · rcases he.letter with hl | hl <;> simp [hl]
    · rcases mem_of_isSign he.sign hc with rfl | rfl <;> simp
    · exact Or.inl (he.digits c hc)

/-- No blank stands in the text of a numeral. -/
theorem Numeral.IsWellFormed.isMargin_of_mem_text {c : Char} (hc : c ∈ n.text) :
    isMargin c = false := by
  have hmarks : ∀ c ∈ ['e', 'E', '+', '-', '.'], isMargin c = false := by
    simpa using List.all_eq_true.mp
      (by decide : ['e', 'E', '+', '-', '.'].all (fun c => !isMargin c) = true)
  rw [n.text_eq, List.mem_append, List.mem_append] at hc
  rcases hc with hc | hc | hc
  · rcases mem_of_isSign h.sign hc with rfl | rfl <;> exact hmarks _ (by decide)
  · rcases h.mantissa.of_mem_text hc with hdigit | rfl
    · exact isMargin_of_isDigit hdigit
    · exact hmarks '.' (by decide)
  · rcases h.mem_tail hc with hdigit | hmark
    · exact isMargin_of_isDigit hdigit
    · exact hmarks c (List.mem_append_left ['.'] hmark)

end

theorem withoutMargins_of_forall {s : List Char} (h : ∀ c ∈ s, isMargin c = false) :
    withoutMargins s = s := by
  have hkept (t : List Char) (ht : ∀ c ∈ t, isMargin c = false) : t.dropWhile isMargin = t := by
    cases t with
    | nil => rfl
    | cons c t => rw [List.dropWhile_cons, ht c List.mem_cons_self, if_neg Bool.false_ne_true]
  rw [withoutMargins, hkept s h, hkept s.reverse fun c hc => h c (List.mem_reverse.mp hc),
    List.reverse_reverse]

/-- The text of a numeral is a number, the value of the numeral. -/
theorem ofText?_text {n : Numeral} (h : n.IsWellFormed) :
    Binary64.ofText? n.text = some n.value := by
  have hmargins := withoutMargins_of_forall fun c hc => h.isMargin_of_mem_text hc
  have hsign := h.spanSign_text []
  rw [List.append_nil, List.append_nil] at hsign
  rw [Binary64.ofText?, hmargins, hsign]
  simp only [h.named?, h.digital?, Option.none_or, Numeral.value]

end AskTable.Number

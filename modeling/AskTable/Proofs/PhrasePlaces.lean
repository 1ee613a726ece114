import AskTable.Proofs.Patterns
import AskTable.Proofs.WholeWords
import Mathlib.Order.Nat

/-!
# Where phrases stand

What a question asks for is told by words in it: single ones that stand free, and phrases of words,
blanks and digits. Each phrase is described by its parts, and the search for it finds the first
place at which its parts stand.

* `StandsFree`, `HoldsWord`: a piece with boundaries at its ends, and a whole word.
* `firstAtWord?_eq_some_iff`: a search over the places with a boundary finds the least one.
* `LimitAt`, `FirstLimit`: a word that asks for a number of rows, blanks and a whole number;
  `limitPhrase?_eq_some_iff`, `limitPhrase?_eq_none_iff`.
* `IsSortPhrase`: a word that asks for an order, and `by`; `sortHere?_eq_some_iff`: what follows it
  is a name and a direction, after as many blanks as leave a name (`sortNameAfter?_eq_some_iff`);
  `direction?_eq_some_iff`, `sortName?_eq_some_iff`.
-/

namespace AskTable.Text

/-! ## Pieces and words -/

/-- The piece stands in the text with a boundary at each of its ends. -/
def StandsFree (piece s : List Char) : Prop :=
  ∃ before after, s = before ++ piece ++ after ∧
    boundary before.getLast? (piece ++ after).head? = true ∧
    boundary (before ++ piece).getLast? after.head? = true

theorem lastOr_none (s : List Char) : lastOr none s = s.getLast? := by
  rw [lastOr, Option.orElse_eq_orElse, Option.orElse_eq_or, Option.or_none]

theorem lastOr_getLast? (s t : List Char) : lastOr s.getLast? t = (s ++ t).getLast? := by
  rw [List.getLast?_append, lastOr, Option.orElse_eq_orElse, Option.orElse_eq_or]

theorem occursBounded_iff_standsFree {piece s : List Char} :
    occursBounded piece s = true ↔ StandsFree piece s := by
  rw [occursBounded_iff]
  simp only [lastOr_none, lastOr_getLast?, ← List.append_assoc, StandsFree]

/-- The word stands in the text, and no other word character touches it. -/
def HoldsWord (word : String) (s : List Char) : Prop :=
  ∃ before after, s = before ++ word.toList ++ after ∧
    wordAt before.getLast? = false ∧ wordAt after.head? = false

/-- What begins and ends as words do stands free exactly when no word character touches it. -/
theorem standsFree_iff_holdsWord {word : String} {s : List Char}
    (hfront : wordAt word.toList.head? = true) (hback : wordAt word.toList.getLast? = true) :
    StandsFree word.toList s ↔ HoldsWord word s := by
  have hne : word.toList ≠ [] := by
    intro hnil
    rw [hnil] at hfront
    cases hfront
  refine exists₂_congr fun before after => and_congr_right fun _ => ?_
  rw [List.head?_append_of_ne_nil _ hne, List.getLast?_append_of_ne_nil _ hne, boundary, boundary,
    hfront, hback]
  simp

/-! ## Gaps and runs -/

/-- One blank or more. -/
def IsGap (s : List Char) : Prop := s ≠ [] ∧ ∀ c ∈ s, isBlank c = true

theorem isGap_space : IsGap [' '] :=
  ⟨List.cons_ne_nil _ _, List.forall_mem_singleton.mpr (by decide)⟩

/-- A run of a class in front of a text that does not go on in the class. -/
theorem span_of_head? {p : Char → Bool} {run rest : List Char} (hrun : ∀ c ∈ run, p c = true)
    (hrest : ∀ c ∈ rest.head?, p c = false) :
    (run ++ rest).takeWhile p = run ∧ (run ++ rest).dropWhile p = rest := by
  rw [List.takeWhile_append_of_pos hrun, List.dropWhile_append_of_pos hrun]
  cases rest with
  | nil => simp
  | cons c rest => simp [hrest c rfl]

theorem dropBlanks?_eq_some_iff {s rest : List Char} :
    dropBlanks? s = some rest ↔
      ∃ gap, IsGap gap ∧ s = gap ++ rest ∧ ∀ c ∈ rest.head?, isBlank c = false := by
  constructor
  · intro h
    cases s with
    | nil => cases h
    | cons c s =>
      obtain ⟨hc, rfl⟩ : isBlank c = true ∧ trimStart s = rest := by simpa [dropBlanks?] using h
      refine ⟨c :: s.takeWhile isBlank, ⟨List.cons_ne_nil _ _, ?_⟩, ?_, ?_⟩
      · exact List.forall_mem_cons.mpr ⟨hc, fun d hd => List.mem_takeWhile_imp hd⟩
      · rw [List.cons_append, trimStart, List.takeWhile_append_dropWhile]
      · intro d hd
        have hnot := List.head?_dropWhile_not isBlank s
        rwa [← trimStart, Option.mem_def.mp hd] at hnot
  · rintro ⟨gap, ⟨hne, hgap⟩, rfl, hrest⟩
    obtain ⟨c, gap, rfl⟩ := List.exists_cons_of_ne_nil hne
    obtain ⟨hc, hgap⟩ := List.forall_mem_cons.mp hgap
    rw [List.cons_append, dropBlanks?, if_pos hc, trimStart, (span_of_head? hgap hrest).2]

/-- Every decimal digit is a word character. -/
theorem isWord_of_isDigit {c : Char} (h : isDigit c = true) : isWord c = true := by
  have hascii : ∀ k < 10, isWord (Char.ofNat (0x30 + k)) = true := by decide
  have hwider : (digitZeros.all fun z => z == 0x30 || Nat.ble 128 z &&
      wordRanges.any fun r => Nat.ble r.1 z && Nat.ble (z + 9) r.2) = true := by decide +kernel
  obtain ⟨z, hz, hle, hlt⟩ := isDigit_iff.mp h
  have hzero := List.all_eq_true.mp hwider z hz
  simp only [Bool.or_eq_true, Bool.and_eq_true, beq_iff_eq, Nat.ble_eq, List.any_eq_true] at hzero
  rcases hzero with rfl | ⟨hbeyond, r, hr, hfirst, hlast⟩
  · have hk := hascii (c.toNat - 0x30) (by omega)
    rwa [Nat.add_sub_of_le hle, Char.ofNat_toNat] at hk
  · have hrange : (decide (r.1 ≤ c.toNat) && decide (c.toNat ≤ r.2)) = true := by
      rw [Bool.and_eq_true, decide_eq_true_eq, decide_eq_true_eq]
      omega
    rw [isWord, if_neg (by omega)]
    exact List.any_eq_true.mpr ⟨r, hr, hrange⟩

/-- No word character is a blank. -/
theorem isBlank_of_isWord {c : Char} (h : isWord c = true) : isBlank c = false := by
  have hall : ∀ r ∈ blankRanges, ∀ k < 11, r.1 + k ≤ r.2 → isWord (Char.ofNat (r.1 + k)) = false ∧
      r.2 < r.1 + 11 := by decide +kernel
  refine Bool.eq_false_iff.mpr fun hblank => ?_
  obtain ⟨r, hr, hrange⟩ := List.any_eq_true.mp hblank
  rw [Bool.and_eq_true, decide_eq_true_eq, decide_eq_true_eq] at hrange
  obtain ⟨-, hlength⟩ := hall r hr 0 (by decide) (hrange.1.trans hrange.2)
  obtain ⟨hno, -⟩ := hall r hr (c.toNat - r.1) (by omega) (by omega)
  rw [Nat.add_sub_of_le hrange.1, Char.ofNat_toNat, h] at hno
  cases hno

theorem not_isWord_of_isBlank {c : Char} (h : isBlank c = true) : isWord c = false := by
  refine Bool.eq_false_iff.mpr fun hword => ?_
  rw [isBlank_of_isWord hword] at h
  cases h

end AskTable.Text

namespace AskTable.Question

open AskTable.Text AskTable.Number

/-! ## The first place with a boundary -/

section

variable {α : Type} {pattern : List Char → Option α}

/-- A pattern finds something at a place of the text with a boundary in front. -/
def FindsAt (pattern : List Char → Option α) (x : Option Char) (s : List Char) (i : Nat) : Prop :=
  boundary (lastOr x (s.take i)) (s.drop i).head? = true ∧ (pattern (s.drop i)).isSome = true

theorem findsAt_zero {x : Option Char} {s : List Char} :
    FindsAt pattern x s 0 ↔ boundary x s.head? = true ∧ (pattern s).isSome = true := by
  rw [FindsAt, List.take_zero, List.drop_zero, lastOr, List.getLast?_nil, Option.orElse_eq_orElse,
    Option.orElse_eq_or, Option.none_or]

theorem findsAt_succ {x : Option Char} {c : Char} {s : List Char} {i : Nat} :
    FindsAt pattern x (c :: s) (i + 1) ↔ FindsAt pattern (some c) s i := by
  rw [FindsAt, FindsAt, List.take_succ_cons, List.drop_succ_cons, lastOr_cons]

/-- A search over the places with a boundary finds what is at the least one. -/
theorem firstAtWordAfter?_eq_some_iff (hnil : pattern [] = none) {a : α} {s : List Char}
    {x : Option Char} : firstAtWordAfter? pattern x s = some a ↔
      ∃ i, IsLeast {i | FindsAt pattern x s i} i ∧ pattern (s.drop i) = some a := by
  induction s generalizing x with
  | nil => simp [firstAtWordAfter?, hnil]
  | cons c s ih =>
    rw [firstAtWordAfter?, Option.orElse_eq_orElse, Option.orElse_eq_or]
    by_cases hzero : FindsAt pattern x (c :: s) 0
    · obtain ⟨hb, hsome⟩ := findsAt_zero.mp hzero
      rw [List.head?_cons] at hb
      rw [if_pos hb, Option.or_of_isSome hsome]
      constructor
      · exact fun h => ⟨0, isLeast_zero hzero, h⟩
      · rintro ⟨i, hi, h⟩
        obtain rfl : i = 0 := Nat.le_zero.mp (hi.2 hzero)
        exact h
    · have hnone : (if boundary x (some c) = true then pattern (c :: s) else none) = none := by
        split
        · rename_i hb
          exact Option.not_isSome_iff_eq_none.mp fun hsome => hzero (findsAt_zero.mpr ⟨hb, hsome⟩)
        · rfl
      have hrest (i : Nat) : IsLeast {j | FindsAt pattern x (c :: s) j} (i + 1) ↔
          IsLeast {j | FindsAt pattern (some c) s j} i := by
        rw [isLeast_succ_iff hzero]
        simp only [findsAt_succ]
      rw [hnone, Option.none_or, ih]
      constructor
      · rintro ⟨i, hi, h⟩
        exact ⟨i + 1, (hrest i).mpr hi, h⟩
      · rintro ⟨i, hi, h⟩
        cases i with
        | zero => exact absurd hi.1 hzero
        | succ i => exact ⟨i, (hrest i).mp hi, h⟩

theorem firstAtWord?_eq_some_iff (hnil : pattern [] = none) {a : α} {s : List Char} :
    firstAtWord? pattern s = some a ↔
      ∃ i, IsLeast {i | FindsAt pattern none s i} i ∧ pattern (s.drop i) = some a :=
  firstAtWordAfter?_eq_some_iff hnil

end

/-! ## Words and what follows them -/

theorem after?_eq_some_iff {word : String} {s rest : List Char} :
    after? word s = some rest ↔ s = word.toList ++ rest := by
  rw [after?, Option.ite_none_right_eq_some, List.isPrefixOf_iff_prefix, Option.some.injEq,
    ← String.length_toList]
  constructor
  · rintro ⟨⟨t, rfl⟩, rfl⟩
    rw [List.drop_left]
  · rintro rfl
    exact ⟨List.prefix_append _ _, List.drop_left⟩

/-- The word in front of a gap is told by the first blank. -/
theorem takeWhile_of_gap {word gap : List Char} (hword : ∀ c ∈ word, isBlank c = false)
    (hgap : IsGap gap) (rest : List Char) :
    (word ++ gap ++ rest).takeWhile (fun c => !isBlank c) = word := by
  obtain ⟨c, gap, rfl⟩ := List.exists_cons_of_ne_nil hgap.1
  rw [List.append_assoc]
  refine (span_of_head? (fun d hd => by simp [hword d hd]) fun d hd => ?_).1
  cases hd
  simp [hgap.2 c List.mem_cons_self]

theorem no_blank_of_all {words : List String}
    (h : (words.all fun word => word.toList.all fun c => !isBlank c) = true) :
    ∀ word ∈ words, ∀ c ∈ word.toList, isBlank c = false := by
  simpa using h

/-- Words without blanks are told apart by the blank that follows them. -/
theorem afterWord?_eq_some_iff {words : List String} {s rest : List Char}
    (hwords : ∀ word ∈ words, ∀ c ∈ word.toList, isBlank c = false) :
    afterWord? words s = some rest ↔ ∃ word ∈ words, ∃ gap, IsGap gap ∧
      s = word.toList ++ gap ++ rest ∧ ∀ c ∈ rest.head?, isBlank c = false := by
  have hhere (word : String) (rest : List Char) :
      (after? word s).bind dropBlanks? = some rest ↔ ∃ gap, IsGap gap ∧
        s = word.toList ++ gap ++ rest ∧ ∀ c ∈ rest.head?, isBlank c = false := by
    simp only [Option.bind_eq_some_iff, after?_eq_some_iff, dropBlanks?_eq_some_iff]
    constructor
    · rintro ⟨_, rfl, gap, hgap, rfl, hrest⟩
      exact ⟨gap, hgap, (List.append_assoc _ _ _).symm, hrest⟩
    · rintro ⟨gap, hgap, rfl, hrest⟩
      exact ⟨gap ++ rest, List.append_assoc _ _ _, gap, hgap, rfl, hrest⟩
  have hwhole {rest : List Char} (h : afterWord? words s = some rest) :
      ∃ word ∈ words, ∃ gap, IsGap gap ∧
        s = word.toList ++ gap ++ rest ∧ ∀ c ∈ rest.head?, isBlank c = false := by
    obtain ⟨word, hword, h⟩ := List.exists_of_findSome?_eq_some h
    exact ⟨word, hword, (hhere word rest).mp h⟩
  refine ⟨hwhole, fun ⟨word, hword, h⟩ => ?_⟩
  have hsome := (hhere word rest).mpr h
  cases hfound : afterWord? words s with
  | none =>
    rw [List.findSome?_eq_none_iff.mp hfound word hword] at hsome
    cases hsome
  | some other =>
    obtain ⟨found, hmem, gap', hgap', hs', hother⟩ := hwhole hfound
    obtain ⟨gap, hgap, hs, -⟩ := h
    have hsame : found.toList = word.toList := by
      rw [← takeWhile_of_gap (hwords found hmem) hgap' other, ← hs', hs,
        takeWhile_of_gap (hwords word hword) hgap rest]
    rw [String.toList_inj.mp hsame] at hs'
    rw [← hsome, (hhere word other).mpr ⟨gap', hgap', hs', hother⟩]

/-! ## Limits -/

/-- The words that ask for a number of rows. -/
def limitWords : List String := ["first", "top", "limit"]

/-- At a place of the text, a limit begins: one of its words as a whole word, a gap, and a whole
number that no word character follows. -/
def LimitAt (s : List Char) (i : Nat) (digits : List Char) : Prop :=
  wordAt (s.take i).getLast? = false ∧ ∃ word ∈ limitWords, ∃ gap after,
    s.drop i = word.toList ++ gap ++ digits ++ after ∧ IsGap gap ∧ digits ≠ [] ∧
      AllDigits digits ∧ wordAt after.head? = false

/-- The digits of the leftmost limit of the text. -/
def FirstLimit (s digits : List Char) : Prop :=
  ∃ i, IsLeast {j | ∃ d, LimitAt s j d} i ∧ LimitAt s i digits

/-- The whole number at the front of a text, which ends as a word does. -/
def wholeHere? (s : List Char) : Option (List Char) :=
  match spanDigits s with
  | ([], _) => none
  | (digits, rest) => if boundary digits.getLast? rest.head? then some digits else none

theorem wholeHere?_eq_some_iff {s digits : List Char} :
    wholeHere? s = some digits ↔ ∃ after, s = digits ++ after ∧ digits ≠ [] ∧
      AllDigits digits ∧ wordAt after.head? = false := by
  have hbound {run after : List Char} (hne : run ≠ []) (hrun : AllDigits run) :
      boundary run.getLast? after.head? = true ↔ wordAt after.head? = false := by
    have hlast : wordAt run.getLast? = true := by
      rw [List.getLast?_eq_some_getLast hne]
      exact isWord_of_isDigit (hrun _ (List.getLast_mem hne))
    rw [boundary, hlast]
    simp
  constructor
  · intro h
    unfold wholeHere? spanDigits at h
    split at h
    · cases h
    · rename_i run after hne hspan
      obtain ⟨rfl, rfl⟩ := Prod.mk.inj hspan
      obtain ⟨hb, hsame⟩ := Option.ite_none_right_eq_some.mp h
      obtain rfl := Option.some.inj hsame
      have hrun : AllDigits (s.takeWhile isDigit) := fun c hc => List.mem_takeWhile_imp hc
      exact ⟨_, List.takeWhile_append_dropWhile.symm, hne, hrun, (hbound hne hrun).mp hb⟩
  · rintro ⟨after, rfl, hne, hrun, hafter⟩
    have hstop : ∀ c ∈ after.head?, isDigit c = false := by
      intro c hc
      rw [Option.mem_def.mp hc, wordAt, Option.any_some] at hafter
      exact Bool.eq_false_iff.mpr fun hd => Bool.eq_false_iff.mp hafter (isWord_of_isDigit hd)
    obtain ⟨htake, hdrop⟩ := span_of_head? hrun hstop
    obtain ⟨c, run, rfl⟩ := List.exists_cons_of_ne_nil hne
    simp only [wholeHere?, spanDigits, htake, hdrop]
    rw [if_pos ((hbound hne hrun).mpr hafter)]

theorem limitHere?_eq_some_iff {s digits : List Char} :
    limitHere? s = some digits ↔ ∃ word ∈ limitWords, ∃ gap after,
      s = word.toList ++ gap ++ digits ++ after ∧ IsGap gap ∧ digits ≠ [] ∧
        AllDigits digits ∧ wordAt after.head? = false := by
  have hwords : ∀ word ∈ limitWords, ∀ c ∈ word.toList, isBlank c = false :=
    no_blank_of_all (by decide)
  have hhere : limitHere? s = (afterWord? limitWords s).bind wholeHere? := rfl
  simp only [hhere, Option.bind_eq_some_iff, afterWord?_eq_some_iff hwords, wholeHere?_eq_some_iff]
  constructor
  · rintro ⟨_, ⟨word, hword, gap, hgap, rfl, -⟩, after, rfl, hne, hrun, hafter⟩
    exact ⟨word, hword, gap, after, (List.append_assoc _ _ _).symm, hgap, hne, hrun, hafter⟩
  · rintro ⟨word, hword, gap, after, rfl, hgap, hne, hrun, hafter⟩
    refine ⟨digits ++ after, ⟨word, hword, gap, hgap, List.append_assoc _ _ _, ?_⟩,
      after, rfl, hne, hrun, hafter⟩
    intro c hc
    rw [List.head?_append_of_ne_nil _ hne] at hc
    exact isBlank_of_isWord (isWord_of_isDigit (hrun c (List.mem_of_mem_head? hc)))

theorem findsAt_limitHere?_iff {s : List Char} {i : Nat} :
    FindsAt limitHere? none s i ↔ ∃ digits, LimitAt s i digits := by
  have hfront : ∀ word ∈ limitWords, word.toList ≠ [] ∧ wordAt word.toList.head? = true := by decide
  rw [FindsAt, lastOr_none, Option.isSome_iff_exists, ← exists_and_left]
  refine exists_congr fun digits => ?_
  rw [limitHere?_eq_some_iff, LimitAt]
  refine and_congr_left fun ⟨word, hword, gap, after, hs, _⟩ => ?_
  obtain ⟨hne, hhead⟩ := hfront word hword
  rw [hs, List.append_assoc, List.append_assoc, List.head?_append_of_ne_nil _ hne, boundary, hhead]
  simp

theorem limitPhrase?_eq_some_iff {s digits : List Char} :
    limitPhrase? s = some digits ↔ FirstLimit s digits := by
  have hnil : limitHere? [] = none := by decide
  rw [limitPhrase?, firstAtWord?_eq_some_iff hnil, FirstLimit]
  simp only [findsAt_limitHere?_iff]
  refine exists_congr fun i => and_congr_right fun hi => ?_
  obtain ⟨d, hd⟩ := hi.1
  rw [limitHere?_eq_some_iff, LimitAt]
  exact (and_iff_right hd.1).symm

theorem limitPhrase?_eq_none_iff {s : List Char} :
    limitPhrase? s = none ↔ ∀ i digits, ¬ LimitAt s i digits := by
  have hnil : limitHere? [] = none := by decide
  constructor
  · intro h i digits hi
    classical
    have hleast := Nat.isLeast_find (p := fun j => ∃ d, LimitAt s j d) ⟨i, digits, hi⟩
    obtain ⟨d, hd⟩ := hleast.1
    rw [limitPhrase?_eq_some_iff.mpr ⟨_, hleast, hd⟩] at h
    cases h
  · intro h
    refine Option.eq_none_iff_forall_ne_some.mpr fun digits hdigits => ?_
    obtain ⟨i, -, hi⟩ := limitPhrase?_eq_some_iff.mp hdigits
    exact h i digits hi

/-! ## Orders -/

/-- The words that ask for an order. -/
def sortWords : List String := ["sorted", "sort", "ordered", "order"]

theorem no_blank_of_sortWords : ∀ word ∈ sortWords, ∀ c ∈ word.toList, isBlank c = false :=
  no_blank_of_all (by decide)

/-- A word that asks for an order, a gap, `by` and another gap. -/
def IsSortPhrase (phrase : List Char) : Prop :=
  ∃ word ∈ sortWords, ∃ gap last,
    phrase = word.toList ++ gap ++ "by".toList ++ last ∧ IsGap gap ∧ IsGap last

/-- More blanks at the end of a sort phrase belong to it. -/
theorem IsSortPhrase.append_blanks {phrase blanks : List Char} (h : IsSortPhrase phrase)
    (hblanks : ∀ c ∈ blanks, isBlank c = true) : IsSortPhrase (phrase ++ blanks) := by
  obtain ⟨word, hword, gap, last, rfl, hgap, hlast⟩ := h
  refine ⟨word, hword, gap, last ++ blanks, List.append_assoc _ _ _, hgap, ?_⟩
  exact ⟨by simp [hlast.1], List.forall_mem_append.mpr ⟨hlast.2, hblanks⟩⟩

/-- No name follows a gap at the front of the text. -/
def NamesNoneAfterGap (s : List Char) : Prop :=
  ∀ gap rest, s = gap ++ rest → IsGap gap → sortName? rest = none

theorem sortNameAfter?_eq_none_iff {s : List Char} :
    sortNameAfter? s = none ↔ NamesNoneAfterGap s := by
  induction s with
  | nil =>
    refine iff_of_true rfl fun gap rest hs hgap => ?_
    exact absurd (List.append_eq_nil_iff.mp hs.symm).1 hgap.1
  | cons c s ih =>
    rw [sortNameAfter?, Option.orElse_eq_orElse, Option.orElse_eq_or]
    by_cases hc : isBlank c = true
    · rw [if_pos hc, Option.or_eq_none_iff, ih]
      constructor
      · rintro ⟨hlonger, hhere⟩ gap rest hs hgap
        obtain ⟨d, gap, rfl⟩ := List.exists_cons_of_ne_nil hgap.1
        obtain ⟨rfl, rfl⟩ := List.cons.inj hs
        by_cases hnil : gap = []
        · rwa [hnil] at hhere
        · exact hlonger gap rest rfl ⟨hnil, (List.forall_mem_cons.mp hgap.2).2⟩
      · intro h
        have hone : IsGap [c] := ⟨List.cons_ne_nil _ _, List.forall_mem_singleton.mpr hc⟩
        refine ⟨fun gap rest hs hgap => ?_, h [c] s rfl hone⟩
        have hmore : IsGap (c :: gap) :=
          ⟨List.cons_ne_nil _ _, List.forall_mem_cons.mpr ⟨hc, hgap.2⟩⟩
        exact h (c :: gap) rest (by rw [hs, List.cons_append]) hmore
    · rw [if_neg hc]
      refine iff_of_true rfl fun gap rest hs hgap => ?_
      obtain ⟨d, gap, rfl⟩ := List.exists_cons_of_ne_nil hgap.1
      obtain ⟨rfl, -⟩ := List.cons.inj hs
      exact absurd (List.forall_mem_cons.mp hgap.2).1 hc

/-- The name after the longest gap that leaves one. -/
theorem sortNameAfter?_eq_some_iff {s name : List Char} {d : Direction} :
    sortNameAfter? s = some (name, d) ↔ ∃ gap rest, s = gap ++ rest ∧ IsGap gap ∧
      sortName? rest = some (name, d) ∧ NamesNoneAfterGap rest := by
  induction s with
  | nil =>
    constructor
    · intro h
      cases h
    · rintro ⟨gap, rest, hs, hgap, -⟩
      exact absurd (List.append_eq_nil_iff.mp hs.symm).1 hgap.1
  | cons c s ih =>
    rw [sortNameAfter?, Option.orElse_eq_orElse, Option.orElse_eq_or, Option.ite_none_right_eq_some,
      Option.or_eq_some_iff, ih, sortNameAfter?_eq_none_iff]
    constructor
    · rintro ⟨hc, ⟨gap, rest, rfl, hgap, hname, hnone⟩ | ⟨hnone, hname⟩⟩
      · exact ⟨c :: gap, rest, rfl, ⟨List.cons_ne_nil _ _, List.forall_mem_cons.mpr ⟨hc, hgap.2⟩⟩,
          hname, hnone⟩
      · exact ⟨[c], s, rfl, ⟨List.cons_ne_nil _ _, List.forall_mem_singleton.mpr hc⟩, hname, hnone⟩
    · rintro ⟨gap, rest, hs, hgap, hname, hnone⟩
      obtain ⟨x, gap, rfl⟩ := List.exists_cons_of_ne_nil hgap.1
      obtain ⟨rfl, rfl⟩ := List.cons.inj hs
      obtain ⟨hc, hblanks⟩ := List.forall_mem_cons.mp hgap.2
      refine ⟨hc, ?_⟩
      by_cases hnil : gap = []
      · subst hnil
        exact Or.inr ⟨hnone, hname⟩
      · exact Or.inl ⟨gap, rest, rfl, ⟨hnil, hblanks⟩, hname, hnone⟩

/-- Without a blank in front there is no gap. -/
theorem namesNoneAfterGap_of_head? {s : List Char} (h : ∀ c ∈ s.head?, isBlank c = false) :
    NamesNoneAfterGap s := by
  rintro gap rest rfl hgap
  obtain ⟨c, gap, rfl⟩ := List.exists_cons_of_ne_nil hgap.1
  have hblank := hgap.2 c List.mem_cons_self
  rw [h c rfl] at hblank
  cases hblank

/-- What follows a sort phrase at the front of a text is a name and a direction. The phrase ends with
as many blanks as leave a name. -/
theorem sortHere?_eq_some_iff {s name : List Char} {d : Direction} :
    sortHere? s = some (name, d) ↔ ∃ phrase rest, s = phrase ++ rest ∧ IsSortPhrase phrase ∧
      sortName? rest = some (name, d) ∧ NamesNoneAfterGap rest := by
  have hwords := no_blank_of_sortWords
  have hhere : sortHere? s =
      (afterWord? sortWords s).bind fun rest => (after? "by" rest).bind sortNameAfter? := rfl
  simp only [hhere, Option.bind_eq_some_iff, afterWord?_eq_some_iff hwords, after?_eq_some_iff,
    sortNameAfter?_eq_some_iff]
  constructor
  · rintro ⟨_, ⟨word, hword, gap, hgap, rfl, -⟩, _, rfl, last, rest, rfl, hlast, hname, hnone⟩
    refine ⟨_, rest, ?_, ⟨word, hword, gap, last, rfl, hgap, hlast⟩, hname, hnone⟩
    simp only [List.append_assoc]
  · rintro ⟨_, rest, rfl, ⟨word, hword, gap, last, rfl, hgap, hlast⟩, hname, hnone⟩
    refine ⟨"by".toList ++ (last ++ rest), ⟨word, hword, gap, hgap, ?_, ?_⟩, last ++ rest, rfl,
      last, rest, rfl, hlast, hname, hnone⟩
    · simp only [List.append_assoc]
    · intro c hc
      cases hc
      decide

/-- A blank is the name where nothing else can be one. -/
example : sortHere? "sort by   descé".toList = some ([' '], .descending) := by decide

/-- The direction that a word names in front. -/
def named? (word : List Char) : Option Direction :=
  if (after? "desc" word).isSome then some .descending
  else if (after? "asc" word).isSome then some .ascending
  else none

theorem named?_eq_some_iff {word : List Char} {d : Direction} :
    named? word = some d ↔
      "desc".toList <+: word ∧ d = .descending ∨ "asc".toList <+: word ∧ d = .ascending := by
  have hafter (name : String) : (after? name word).isSome = true ↔ name.toList <+: word := by
    rw [Option.isSome_iff_exists]
    simp only [after?_eq_some_iff]
    exact exists_congr fun rest => eq_comm
  have hone : ¬ ("desc".toList <+: word ∧ "asc".toList <+: word) := by
    rintro ⟨⟨_, rfl⟩, hasc⟩
    cases (List.cons_prefix_cons.mp hasc).1
  rw [named?]
  by_cases hdesc : "desc".toList <+: word
  · have hasc : ¬ "asc".toList <+: word := fun h => hone ⟨hdesc, h⟩
    rw [if_pos ((hafter "desc").mpr hdesc)]
    simp only [hdesc, hasc, true_and, false_and, or_false, Option.some.injEq, eq_comm]
  · rw [if_neg fun h => hdesc ((hafter "desc").mp h), Option.ite_none_right_eq_some, hafter]
    simp only [hdesc, false_and, false_or, Option.some.injEq, eq_comm]

/-- A text ends a sort phrase if nothing is left, or a gap and a word that begins with the name of
a direction. -/
theorem direction?_eq_some_iff {s : List Char} {d : Direction} :
    direction? s = some d ↔ s = [] ∧ d = .ascending ∨
      ∃ gap word, s = gap ++ word ∧ IsGap gap ∧ (∀ c ∈ word, isWord c = true) ∧
        ("desc".toList <+: word ∧ d = .descending ∨ "asc".toList <+: word ∧ d = .ascending) := by
  simp only [← named?_eq_some_iff]
  cases s with
  | nil =>
    have hgap : ¬ ∃ gap word : List Char, [] = gap ++ word ∧ IsGap gap ∧
        (∀ c ∈ word, isWord c = true) ∧ named? word = some d := by
      rintro ⟨gap, word, hs, hgap, -⟩
      exact hgap.1 (List.append_eq_nil_iff.mp hs.symm).1
    rw [or_iff_left hgap]
    simp [direction?, eq_comm]
  | cons c s =>
    rw [or_iff_right fun h => List.cons_ne_nil c s h.1]
    have hdirection : direction? (c :: s) = (dropBlanks? (c :: s)).bind fun word =>
        if !word.all isWord then none else named? word := rfl
    simp only [hdirection, Option.bind_eq_some_iff, dropBlanks?_eq_some_iff]
    constructor
    · rintro ⟨word, ⟨gap, hgap, hs, -⟩, hword⟩
      obtain ⟨hall, hnamed⟩ := Option.ite_none_left_eq_some.mp hword
      exact ⟨gap, word, hs, hgap, by simpa using hall, hnamed⟩
    · rintro ⟨gap, word, hs, hgap, hall, hnamed⟩
      refine ⟨word, ⟨gap, hgap, hs, fun x hx => ?_⟩, ?_⟩
      · exact isBlank_of_isWord (hall x (List.mem_of_mem_head? hx))
      · rw [if_neg (by simpa using hall), hnamed]

/-- The name after a sort phrase is the shortest one that a direction follows. -/
theorem sortName?_eq_some_iff {s name : List Char} {d : Direction} :
    sortName? s = some (name, d) ↔ ∃ after, s = name ++ after ∧ name ≠ [] ∧
      (∀ c ∈ name, isNameChar c = true) ∧ direction? after = some d ∧
        ∀ v, v <:+ name.tail → v ≠ [] → direction? (v ++ after) = none := by
  induction s generalizing name with
  | nil =>
    constructor
    · intro h
      cases h
    · rintro ⟨after, hs, hne, -⟩
      exact absurd (List.append_eq_nil_iff.mp hs.symm).1 hne
  | cons c s ih =>
    rw [sortName?, Option.ite_none_right_eq_some]
    cases hd : direction? s with
    | some first =>
      constructor
      · rintro ⟨hc, h⟩
        cases h
        exact ⟨s, rfl, List.cons_ne_nil _ _, by simpa using hc, hd,
          fun v hv hne => absurd (List.suffix_nil.mp hv) hne⟩
      · rintro ⟨after, hs, hne, hname, hafter, hshort⟩
        obtain ⟨x, name, rfl⟩ := List.exists_cons_of_ne_nil hne
        rw [List.cons_append, List.cons.injEq] at hs
        obtain ⟨rfl, rfl⟩ := hs
        obtain rfl : name = [] := by
          by_contra hlong
          rw [hshort name List.suffix_rfl hlong] at hd
          cases hd
        rw [List.nil_append, hafter] at hd
        cases hd
        exact ⟨hname c List.mem_cons_self, rfl⟩
    | none =>
      simp only [Option.map_eq_some_iff, Prod.mk.injEq, Prod.exists]
      constructor
      · rintro ⟨hc, name, _, hrest, rfl, rfl⟩
        obtain ⟨after, rfl, hne, hname, hafter, hshort⟩ := ih.mp hrest
        refine ⟨after, rfl, List.cons_ne_nil _ _, List.forall_mem_cons.mpr ⟨hc, hname⟩, hafter,
          fun v hv hvne => ?_⟩
        obtain ⟨x, name, rfl⟩ := List.exists_cons_of_ne_nil hne
        rcases List.suffix_cons_iff.mp hv with rfl | hv
        · exact hd
        · exact hshort v hv hvne
      · rintro ⟨after, hs, hne, hname, hafter, hshort⟩
        obtain ⟨x, name, rfl⟩ := List.exists_cons_of_ne_nil hne
        rw [List.cons_append, List.cons.injEq] at hs
        obtain ⟨rfl, rfl⟩ := hs
        obtain ⟨hc, hname⟩ := List.forall_mem_cons.mp hname
        have hlong : name ≠ [] := by
          rintro rfl
          rw [List.nil_append, hafter] at hd
          cases hd
        exact ⟨hc, name, d, ih.mpr ⟨after, rfl, hlong, hname, hafter,
          fun v hv => hshort v (hv.trans (List.tail_suffix name))⟩, rfl, rfl⟩

end AskTable.Question

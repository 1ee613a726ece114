import AskTable.Proofs.Plans
import AskTable.Proofs.PlainText

/-!
# Whole words

A question mentions a name where it stands between boundaries of words. A question that is one word
can only mention that word.

* `occursBounded_iff`: where a piece occurs with a boundary at both ends.
* `occursBounded_of_words`: in a text of word characters this is the whole text.
* `lower_of_isPlain`: the small letters of plain text.
* `limitPhrase?_of_no_blank`, `sortPhrase?_of_no_blank`: a text without blanks has no phrases.
* `ofQuestion_name`: the plan of a question that is the name of a column.
-/

namespace AskTable.Text

/-! ## Boundaries -/

theorem bounded_iff {piece s : List Char} {x : Option Char} :
    bounded piece x s = true ↔ ∃ after, s = piece ++ after ∧
      boundary x (piece ++ after).head? = true ∧ boundary (lastOr x piece) after.head? = true := by
  rw [bounded, Bool.and_eq_true, Bool.and_eq_true, List.isPrefixOf_iff_prefix]
  constructor
  · rintro ⟨⟨⟨after, rfl⟩, hfront⟩, hback⟩
    rw [List.drop_left] at hback
    exact ⟨after, rfl, hfront, hback⟩
  · rintro ⟨after, rfl, hfront, hback⟩
    rw [List.drop_left]
    exact ⟨⟨List.prefix_append piece after, hfront⟩, hback⟩

theorem lastOr_cons (x : Option Char) (c : Char) (s : List Char) :
    lastOr x (c :: s) = lastOr (some c) s := by
  cases s with
  | nil => rfl
  | cons d s => simp [lastOr, List.getLast?_cons]

theorem occursBoundedAfter_iff {piece s : List Char} {x : Option Char} :
    occursBoundedAfter piece x s = true ↔ ∃ before after, s = before ++ (piece ++ after) ∧
      boundary (lastOr x before) (piece ++ after).head? = true ∧
      boundary (lastOr (lastOr x before) piece) after.head? = true := by
  induction s generalizing x with
  | nil =>
    rw [occursBoundedAfter, bounded_iff]
    constructor
    · rintro ⟨after, hs, hfront, hback⟩
      exact ⟨[], after, hs, hfront, hback⟩
    · rintro ⟨before, after, hs, hfront, hback⟩
      obtain ⟨rfl, hnil⟩ := List.append_eq_nil_iff.mp hs.symm
      exact ⟨after, hnil.symm, hfront, hback⟩
  | cons c s ih =>
    rw [occursBoundedAfter, Bool.or_eq_true, bounded_iff, ih]
    constructor
    · rintro (⟨after, hs, hfront, hback⟩ | ⟨before, after, rfl, hfront, hback⟩)
      · exact ⟨[], after, hs, hfront, hback⟩
      · exact ⟨c :: before, after, rfl, by rwa [lastOr_cons], by rwa [lastOr_cons]⟩
    · rintro ⟨before, after, hs, hfront, hback⟩
      cases before with
      | nil => exact Or.inl ⟨after, hs, hfront, hback⟩
      | cons d before =>
        rw [List.cons_append, List.cons.injEq] at hs
        obtain ⟨rfl, rfl⟩ := hs
        rw [lastOr_cons] at hfront hback
        exact Or.inr ⟨before, after, rfl, hfront, hback⟩

/-- A piece occurs with a boundary at both ends: before it and after it. -/
theorem occursBounded_iff {piece s : List Char} :
    occursBounded piece s = true ↔ ∃ before after, s = before ++ (piece ++ after) ∧
      boundary (lastOr none before) (piece ++ after).head? = true ∧
      boundary (lastOr (lastOr none before) piece) after.head? = true :=
  occursBoundedAfter_iff

theorem wordAt_head {s : List Char} (hne : s ≠ []) (h : ∀ c ∈ s, isWord c = true) :
    wordAt s.head? = true := by
  obtain ⟨c, rest, rfl⟩ := List.exists_cons_of_ne_nil hne
  exact h c List.mem_cons_self

theorem wordAt_lastOr {s : List Char} (hne : s ≠ []) (h : ∀ c ∈ s, isWord c = true)
    (x : Option Char) : wordAt (lastOr x s) = true := by
  have hlast : s.getLast? = some (s.getLast hne) := List.getLast?_eq_some_getLast hne
  rw [lastOr, hlast]
  exact h _ (List.getLast_mem hne)

/-- A text of word characters has boundaries at its two ends alone. -/
theorem occursBounded_of_words {piece s : List Char} (hne : piece ≠ [])
    (h : ∀ c ∈ s, isWord c = true) : occursBounded piece s = true ↔ piece = s := by
  rw [occursBounded_iff]
  constructor
  · rintro ⟨before, after, rfl, hfront, hback⟩
    have hpiece : ∀ c ∈ piece ++ after, isWord c = true :=
      fun c hc => h c (List.mem_append_right _ hc)
    have hword := wordAt_head (List.append_ne_nil_of_left_ne_nil hne after) hpiece
    have hbefore : before = [] := by
      by_cases hb : before = []
      · exact hb
      · have hlast := wordAt_lastOr hb (fun c hc => h c (List.mem_append_left _ hc)) none
        rw [boundary, hlast, hword] at hfront
        simp at hfront
    have hafter : after = [] := by
      by_cases ha : after = []
      · exact ha
      · have hhead := wordAt_head ha fun c hc => hpiece c (List.mem_append_right _ hc)
        have hlast := wordAt_lastOr hne (fun c hc => hpiece c (List.mem_append_left _ hc))
          (lastOr none before)
        rw [boundary, hlast, hhead] at hback
        simp at hback
    simp [hbefore, hafter]
  · rintro rfl
    refine ⟨[], [], by simp, ?_, ?_⟩
    · rw [List.append_nil, boundary, wordAt_head hne h]
      rfl
    · rw [boundary, wordAt_lastOr hne h]
      rfl

/-! ## Plain text in small letters -/

theorem isWord_of_isPlain {c : Char} (h : isPlain c = true) : isWord c = true := by
  have hascii : c.toNat < 128 := by
    have hrange := isPlain_iff.mp h
    omega
  rw [isWord, if_pos hascii]
  exact h

theorem lowerAfter_of_isPlain {s : List Char} (h : ∀ c ∈ s, isPlain c = true)
    (before : List Char) : lowerAfter before s = s.map Char.toLower := by
  induction s generalizing before with
  | nil => rfl
  | cons c s ih =>
    have hc := isPlain_iff.mp (h c List.mem_cons_self)
    have hsigma : c ≠ 'Σ' := ne_of_isPlain (h c List.mem_cons_self) (by decide)
    rw [lowerAfter, ih (fun d hd => h d (List.mem_cons_of_mem _ hd)), lowerChar, if_pos (by omega)]
    · rfl
    · exact hsigma

theorem lower_of_isPlain {s : List Char} (h : ∀ c ∈ s, isPlain c = true) :
    lower s = s.map Char.toLower :=
  lowerAfter_of_isPlain h []

theorem isPlain_toLower {c : Char} (h : isPlain c = true) : isPlain c.toLower = true := by
  have hrange := isPlain_iff.mp h
  rw [isPlain_iff]
  unfold Char.toLower
  split
  · rename_i hc
    simp [UInt32.le_iff_toNat_le] at hc ⊢
    omega
  · exact hrange

end AskTable.Text

namespace AskTable.Question

open AskTable.Text

/-! ## Phrases -/

theorem firstAtWordAfter?_eq_none {α : Type} {pattern : List Char → Option α} {s : List Char}
    (h : ∀ t, t <:+ s → pattern t = none) (x : Option Char) :
    firstAtWordAfter? pattern x s = none := by
  induction s generalizing x with
  | nil => rfl
  | cons c s ih =>
    rw [firstAtWordAfter?, h _ (List.suffix_refl _),
      ih fun t ht => h t (ht.trans (List.suffix_cons c s))]
    simp

/-- No word of a text without blanks is followed by a blank. -/
theorem afterWord?_of_no_blank {s : List Char} (h : ∀ c ∈ s, isBlank c = false)
    (words : List String) : afterWord? words s = none := by
  rw [afterWord?, List.findSome?_eq_none_iff]
  intro word _
  rw [after?]
  split
  · have hrest : ∀ c ∈ s.drop word.length, isBlank c = false :=
      fun c hc => h c (List.mem_of_mem_drop hc)
    rw [Option.bind_some]
    cases hd : s.drop word.length with
    | nil => rfl
    | cons c rest =>
      rw [hd] at hrest
      rw [dropBlanks?, if_neg (by simp [hrest c List.mem_cons_self])]
  · rfl

variable {s : List Char}

theorem limitPhrase?_of_no_blank (h : ∀ c ∈ s, isBlank c = false) : limitPhrase? s = none := by
  refine firstAtWordAfter?_eq_none (fun t ht => ?_) none
  rw [limitHere?, afterWord?_of_no_blank fun c hc => h c (ht.subset hc)]
  rfl

theorem sortPhrase?_of_no_blank (h : ∀ c ∈ s, isBlank c = false) : sortPhrase? s = none := by
  refine firstAtWordAfter?_eq_none (fun t ht => ?_) none
  rw [sortHere?, afterWord?_of_no_blank fun c hc => h c (ht.subset hc)]
  rfl

/-! ## Names as questions -/

/-- A plain name that does not ask for everything. -/
def IsColumnName (name : String) : Prop :=
  isPlainName name.toList = true ∧ small name ≠ "all".toList ∧ small name ≠ "everything".toList

theorem small_of_isPlainName {name : String} (h : isPlainName name.toList = true) :
    small name ≠ [] ∧ ∀ c ∈ small name, isPlain c = true := by
  have hlower : small name = name.toList.map Char.toLower :=
    lower_of_isPlain (isPlain_of_isPlainName h)
  rw [hlower]
  refine ⟨by simpa using ne_nil_of_isPlainName h, fun c hc => ?_⟩
  obtain ⟨d, hd, rfl⟩ := List.mem_map.mp hc
  exact isPlain_toLower (isPlain_of_isPlainName h d hd)

theorem normalized_of_isPlainName {name : String} (h : isPlainName name.toList = true) :
    normalized name = small name := by
  rw [normalized, trim_of_no_blank fun c hc => isBlank_of_isPlain (isPlain_of_isPlainName h c hc)]
  rfl

/-- **A name as a question** is planned as the columns that it mentions, itself among them. -/
theorem ofQuestion_name {name : String} (h : IsColumnName name) (texts : List String) :
    Plan.ofQuestion name (texts.map .text) =
        .ok ⟨mentioned (small name) texts, none, false, none⟩ ∧
      isMentioned (small name) name = true := by
  obtain ⟨hplain, hall, hevery⟩ := h
  obtain ⟨hne, hsmall⟩ := small_of_isPlainName hplain
  have hblank : ∀ c ∈ small name, isBlank c = false := fun c hc => isBlank_of_isPlain (hsmall c hc)
  have hwords : ∀ c ∈ small name, isWord c = true := fun c hc => isWord_of_isPlain (hsmall c hc)
  have hasks : asksForAll (small name) = false := by
    rw [asksForAll, Bool.or_eq_false_iff, ← Bool.not_eq_true, ← Bool.not_eq_true,
      occursBounded_of_words (by decide) hwords, occursBounded_of_words (by decide) hwords]
    exact ⟨Ne.symm hevery, Ne.symm hall⟩
  constructor
  · have hnames : (texts.map Cell.text).mapM nameText = .ok texts := mapM_nameText.mpr rfl
    rw [Plan.ofQuestion, normalized_of_isPlainName hplain]
    simp only [limitOf, limitPhrase?_of_no_blank hblank, sortOf, sortPhrase?_of_no_blank hblank,
      columnsOf, hasks, hnames]
    rfl
  · rw [isMentioned, (occursBounded_of_words hne hwords).mpr rfl, Bool.true_or]

end AskTable.Question

import AskTable.Proofs.PhrasePlaces
import AskTable.Proofs.SelectLists

/-!
# Plans are grounded in the question

A plan asks for nothing that the question does not say. Its columns stand free in the question, the
column to sort by follows a sort phrase there, and the number of rows is that of the leftmost limit.

* `SpeaksOfAll`, `Mentions`, `AsksToSortBy`: what a question says of columns.
* `asksForAll_iff`, `isMentioned_iff`, `sortedBy?_grounded`: the searches find what it says.
* `exists_ofQuestion_iff`: a question has a plan unless its first limit is too long to be read.
* `Plan.IsGrounded`, `ofQuestion_isGrounded`: every plan is grounded.
-/

namespace AskTable.Question

open AskTable.Text AskTable.Number AskTable.Statement

/-! ## What a question says -/

/-- The question speaks of every column. -/
def SpeaksOfAll (question : List Char) : Prop :=
  HoldsWord "everything" question ∨ HoldsWord "all" question

/-- The small form of the name stands free in the question, its underscores as they are or as
spaces. -/
def Mentions (question : List Char) (name : String) : Prop :=
  StandsFree (small name) question ∨ StandsFree (swapped '_' ' ' (small name)) question

/-- The small form of the name follows a sort phrase of the question, where its underscores may be
spaces. For a descending order, a gap and a word that begins with `desc` follow it. -/
def AsksToSortBy (question : List Char) (name : String) (descending : Bool) : Prop :=
  ∃ before phrase piece after, question = before ++ phrase ++ piece ++ after ∧
    IsSortPhrase phrase ∧ (small name = piece ∨ small name = swapped ' ' '_' piece) ∧
      (descending = true → ∃ gap word, after = gap ++ word ∧ IsGap gap ∧ "desc".toList <+: word)

theorem asksForAll_iff {question : List Char} :
    asksForAll question = true ↔ SpeaksOfAll question := by
  rw [asksForAll, Bool.or_eq_true, occursBounded_iff_standsFree, occursBounded_iff_standsFree,
    standsFree_iff_holdsWord (by decide) (by decide),
    standsFree_iff_holdsWord (by decide) (by decide), SpeaksOfAll]

theorem isMentioned_iff {question : List Char} {name : String} :
    isMentioned question name = true ↔ Mentions question name := by
  rw [isMentioned, Bool.or_eq_true, occursBounded_iff_standsFree, occursBounded_iff_standsFree,
    Mentions]

theorem small_of_findColumn? {names : List String} {token : List Char} {name : String}
    (h : findColumn? names token = some name) : small name = token := by
  have hsmall := List.find?_some h
  exact eq_of_beq hsmall

/-- The column that a phrase means has its token as its small form. -/
theorem small_of_sortColumn? {names : List String} {phrase : List Char} {name : String}
    (h : sortColumn? names phrase = some name) :
    small name = trim phrase ∨ small name = swapped ' ' '_' (trim phrase) := by
  simp only [sortColumn?, Option.orElse_eq_orElse, Option.orElse_eq_or, Option.or_eq_some_iff,
    Option.filter_eq_some_iff] at h
  rcases h with h | ⟨-, h⟩
  · exact Or.inr (small_of_findColumn? h.1)
  · exact Or.inl (small_of_findColumn? h.1)

/-- A name in a sort phrase, without the blanks at its ends, follows a sort phrase directly: the
blanks in front of it belong to the phrase as well. -/
theorem exists_of_sortPhrase? {question name : List Char} {d : Direction}
    (h : sortPhrase? question = some (name, d)) :
    ∃ before phrase gap after, question = before ++ phrase ++ trim name ++ (gap ++ after) ∧
      IsSortPhrase phrase ∧ (∀ c ∈ gap, isBlank c = true) ∧ direction? after = some d := by
  obtain ⟨place, ⟨before, rfl⟩, hhere⟩ := firstAtWordAfter?_eq_some h
  obtain ⟨phrase, rest, rfl, hphrase, hname, -⟩ := sortHere?_eq_some_iff.mp hhere
  obtain ⟨after, rfl, -, -, hafter, -⟩ := sortName?_eq_some_iff.mp hname
  have hlead : ∀ c ∈ name.takeWhile isBlank, isBlank c = true := fun c hc => List.mem_takeWhile_imp hc
  have hsplit : name = name.takeWhile isBlank ++ trimStart name :=
    List.takeWhile_append_dropWhile.symm
  obtain ⟨gap, hgap, hback⟩ := exists_trimEnd_append (trimStart name)
  refine ⟨before, phrase ++ name.takeWhile isBlank, gap, after, ?_, hphrase.append_blanks hlead,
    hgap, hafter⟩
  conv_lhs => rw [hsplit, hback]
  simp only [trim, List.append_assoc]

/-- What the rules sort by is a column that the question asks to sort by. -/
theorem sortedBy?_grounded {question : List Char} {names : List String} {name : String}
    {d : Direction} (h : sortedBy? question names = some (name, d)) :
    name ∈ names ∧ AsksToSortBy question name (d == .descending) := by
  obtain ⟨token, hphrase, hcolumn⟩ := sortedBy?_eq_some_iff.mp h
  obtain ⟨before, phrase, gap, after, hquestion, hsort, hgap, hafter⟩ :=
    exists_of_sortPhrase? hphrase
  refine ⟨sortColumn?_mem hcolumn, before, phrase, _, _, hquestion, hsort,
    small_of_sortColumn? hcolumn, fun hd => ?_⟩
  obtain rfl := eq_of_beq hd
  rcases direction?_eq_some_iff.mp hafter with ⟨-, hd⟩ | ⟨last, word, rfl, hlast, -, hword⟩
  · cases hd
  · have hdesc : "desc".toList <+: word := by simpa using hword
    refine ⟨gap ++ last, word, (List.append_assoc _ _ _).symm, ⟨?_, ?_⟩, hdesc⟩
    · simp [hlast.1]
    · exact List.forall_mem_append.mpr ⟨hgap, hlast.2⟩

/-! ## Limits that can be read -/

/-- The digits of the first limit, if there is one, are not too many for a number. -/
def LimitReadable (question : List Char) : Prop :=
  ∀ digits, FirstLimit question digits → digits.length ≤ maxDigits

theorem limitOf_grounded {question : List Char} {limit : Option Nat}
    (h : limitOf question = .ok limit) :
    (limit = none ↔ ∀ i digits, ¬ LimitAt question i digits) ∧
      ∀ n, limit = some n → ∃ digits, FirstLimit question digits ∧ n = natOf digits := by
  rw [← limitPhrase?_eq_none_iff]
  simp only [← limitPhrase?_eq_some_iff]
  cases hphrase : limitPhrase? question with
  | none =>
    rw [limitOf, hphrase] at h
    cases h
    simp
  | some digits =>
    simp only [limitOf, hphrase] at h
    split at h
    · cases h
    · cases h
      simp [eq_comm]

theorem exists_limitOf_iff {question : List Char} :
    (∃ limit, limitOf question = .ok limit) ↔ LimitReadable question := by
  simp only [LimitReadable, ← limitPhrase?_eq_some_iff]
  cases hphrase : limitPhrase? question with
  | none => simp [limitOf, hphrase]
  | some digits =>
    by_cases hmany : maxDigits < digits.length
    · simp [limitOf, hphrase, if_pos hmany]
      exact hmany
    · simp [limitOf, hphrase, if_neg hmany]
      omega

/-! ## Plans -/

theorem exists_ofQuestion_iff {question : String} {names : List String} {P : Plan → Prop} {Q : Prop}
    (h : ∀ p, Plan.ofQuestion question (names.map .text) = .ok p → (P p ↔ Q)) :
    (∃ p, Plan.ofQuestion question (names.map .text) = .ok p ∧ P p) ↔
      LimitReadable (normalized question) ∧ Q := by
  rw [← exists_limitOf_iff]
  constructor
  · rintro ⟨p, hp, hP⟩
    obtain ⟨-, hlimit, -⟩ := ofQuestion_eq_ok hp
    exact ⟨⟨_, hlimit⟩, (h p hp).mp hP⟩
  · rintro ⟨⟨limit, hlimit⟩, hQ⟩
    have hp := ofQuestion_texts question names
    rw [hlimit] at hp
    exact ⟨_, hp, (h _ hp).mpr hQ⟩

/-- A column is shown exactly when the question mentions it and does not speak of all columns. -/
theorem mem_shownOf_iff {question : List Char} {names : List String} {name : String} :
    name ∈ shownOf question names ↔
      ¬ SpeaksOfAll question ∧ name ∈ names ∧ Mentions question name := by
  rw [← asksForAll_iff, ← isMentioned_iff, shownOf]
  cases asksForAll question with
  | true => simp
  | false => simp [mentioned]

/-- A plan that asks for nothing but what the question says of the columns with these names. -/
structure Plan.IsGrounded (p : Plan) (question : List Char) (names : List String) : Prop where
  /-- The columns come in the order of the names. -/
  columns_sublist : p.columns.Sublist names
  columns_of_all : SpeaksOfAll question → p.columns = []
  mem_columns_iff : ¬ SpeaksOfAll question →
    ∀ name, name ∈ p.columns ↔ name ∈ names ∧ Mentions question name
  orderBy : ∀ name, p.orderBy = some name →
    name ∈ names ∧ AsksToSortBy question name p.descending
  descending : p.descending = true → p.orderBy ≠ none
  limit_eq_none_iff : p.limit = none ↔ ∀ i digits, ¬ LimitAt question i digits
  limit_eq_some : ∀ n, p.limit = some n → ∃ digits, FirstLimit question digits ∧ n = natOf digits

/-- **Every plan is grounded in its question.** -/
theorem ofQuestion_isGrounded {question : String} {names : List String} {p : Plan}
    (h : Plan.ofQuestion question (names.map .text) = .ok p) :
    p.IsGrounded (normalized question) names := by
  obtain ⟨-, hlimit, -⟩ := ofQuestion_eq_ok h
  obtain ⟨hnone, hsome⟩ := limitOf_grounded hlimit
  obtain ⟨hcolumns, horder, hdescending⟩ := eq_of_ofQuestion h
  refine ⟨?_, fun hall => ?_, fun hall name => ?_, fun name hname => ?_, fun hdesc => ?_, hnone,
    hsome⟩
  · rw [hcolumns, shownOf]
    split
    · exact List.nil_sublist names
    · exact List.filter_sublist
  · rw [hcolumns, shownOf, if_pos (asksForAll_iff.mpr hall)]
  · rw [hcolumns, mem_shownOf_iff, and_iff_right hall]
  · rw [horder, Option.map_eq_some_iff] at hname
    obtain ⟨⟨column, d⟩, hsorted, rfl⟩ := hname
    rw [hdescending, hsorted]
    exact sortedBy?_grounded hsorted
  · rw [hdescending, Option.any_eq_true] at hdesc
    obtain ⟨found, hfound, -⟩ := hdesc
    rw [horder, hfound]
    exact Option.some_ne_none _

/-- Two columns by names that are spelled as words, one of them also sorted by, and the leftmost of
two limits. -/
theorem isGrounded_dated :
    Plan.ofQuestion " Top 3 unit prices, first 5 Order Dates sorted by order date DESC "
        (["name", "Unit_Prices", "order_date"].map .text) =
      .ok ⟨["Unit_Prices", "order_date"], some "order_date", true, some 3⟩ ∧
      Plan.IsGrounded ⟨["Unit_Prices", "order_date"], some "order_date", true, some 3⟩
        "top 3 unit prices, first 5 order dates sorted by order date desc".toList
        ["name", "Unit_Prices", "order_date"] := by
  have hplan : Plan.ofQuestion " Top 3 unit prices, first 5 Order Dates sorted by order date DESC "
      (["name", "Unit_Prices", "order_date"].map .text) =
        .ok ⟨["Unit_Prices", "order_date"], some "order_date", true, some 3⟩ := by decide +kernel
  have hnormalized :
      normalized " Top 3 unit prices, first 5 Order Dates sorted by order date DESC " =
        "top 3 unit prices, first 5 order dates sorted by order date desc".toList := by
    decide +kernel
  exact ⟨hplan, hnormalized ▸ ofQuestion_isGrounded hplan⟩

end AskTable.Question

import AskTable.Proofs.SpokenNames

/-!
# Orders by names that are spelled in words

A question may ask to sort by a column whose name it spells in words, with spaces in the place of
underscores. The column is found unless the last of several words begins with the name of a
direction: that word is then taken for the direction, and the words before it for the name.

* `Spelling`: the words of a name; `Spelling.name` joins them by underscores, `Spelling.spoken` by
  spaces.
* `HoldsSortPhrase`, `sortHere?_sortedBy`, `sortPhrase?_append`: behind text without a sort phrase,
  the first one counts.
* `Spelling.KeepsLast`, `Spelling.sortName?_spoken_iff`: the names that a direction leaves whole.
* `Spelling.ordersBy_iff`: the columns that are found when they are spelled in words.
-/

namespace AskTable.Text

/-- Of a text that ends in a word, the word is told by what stands before it. -/
theorem eq_of_append_words {front other word last : List Char} (h : front ++ word = other ++ last)
    (hword : ∀ c ∈ word, isWord c = true) (hlast : ∀ c ∈ last, isWord c = true)
    (hfront : ∀ c ∈ front.getLast?, isWord c = false)
    (hother : ∀ c ∈ other.getLast?, isWord c = false) : front = other ∧ word = last := by
  have hnil {longer shorter part : List Char} (hpart : ∀ c ∈ part, isWord c = true)
      (hlonger : ∀ c ∈ longer.getLast?, isWord c = false) (hsplit : longer = shorter ++ part) :
      part = [] := by
    rcases List.eq_nil_or_concat' part with rfl | ⟨init, c, rfl⟩
    · rfl
    · have hc := hlonger c (by rw [hsplit, ← List.append_assoc, List.getLast?_concat]; rfl)
      rw [hpart c (by simp)] at hc
      cases hc
  rcases List.append_eq_append_iff.mp h with ⟨part, hsplit, rfl⟩ | ⟨part, hsplit, rfl⟩
  · obtain rfl := hnil (fun c hc => hword c (List.mem_append_left _ hc)) hother hsplit
    rw [List.append_nil] at hsplit
    exact ⟨hsplit.symm, rfl⟩
  · obtain rfl := hnil (fun c hc => hlast c (List.mem_append_left _ hc)) hfront hsplit
    rw [List.append_nil] at hsplit
    exact ⟨hsplit, rfl⟩

end AskTable.Text

namespace AskTable.Question

open AskTable.Text

/-! ## Names made of words -/

/-- A character in the words of a name: a word character that is its own small form. -/
def IsTermChar (c : Char) : Prop := isWord c = true ∧ lowerChar c = [c]

instance (c : Char) : Decidable (IsTermChar c) :=
  inferInstanceAs (Decidable (isWord c = true ∧ lowerChar c = [c]))

/-- A word of a name. -/
structure IsTerm (word : List Char) : Prop where
  ne_nil : word ≠ []
  chars : ∀ c ∈ word, IsTermChar c

instance (word : List Char) : Decidable (IsTerm word) :=
  decidable_of_iff (word ≠ [] ∧ (word.all fun c => decide (IsTermChar c)) = true)
    ⟨fun h => ⟨h.1, by simpa using h.2⟩, fun h => ⟨h.ne_nil, by simpa using h.chars⟩⟩

/-- The words of a name. An underscore inside a word is spelled as it is. -/
structure Spelling where
  front : List (List Char)
  last : List Char
  front_isTerm : ∀ word ∈ front, IsTerm word
  last_isTerm : IsTerm last

namespace Spelling

/-- Everything before the last word, with a separator after each word. -/
def head (s : Spelling) (separator : Char) : List Char := s.front.flatMap (· ++ [separator])

/-- The words with a separator between each two. -/
def joined (s : Spelling) (separator : Char) : List Char := s.head separator ++ s.last

/-- The name of the column. -/
def name (s : Spelling) : String := String.ofList (s.joined '_')

/-- The name as a question spells it. -/
def spoken (s : Spelling) : List Char := s.joined ' '

variable (s : Spelling) {separator : Char}

theorem getLast?_head : ∀ c ∈ (s.head separator).getLast?, c = separator := by
  rcases List.eq_nil_or_concat' s.front with hfront | ⟨init, word, hfront⟩
  · simp [head, hfront]
  · simp [head, hfront, eq_comm]

theorem mem_joined {c : Char} (h : c ∈ s.joined separator) : c = separator ∨ IsTermChar c := by
  rcases List.mem_append.mp h with hhead | hlast
  · obtain ⟨word, hword, hc⟩ := List.mem_flatMap.mp hhead
    rcases List.mem_append.mp hc with hc | hc
    · exact Or.inr ((s.front_isTerm word hword).chars c hc)
    · exact Or.inl (List.mem_singleton.mp hc)
  · exact Or.inr (s.last_isTerm.chars c hlast)

theorem joined_ne_nil : s.joined separator ≠ [] :=
  List.append_ne_nil_of_right_ne_nil _ s.last_isTerm.ne_nil

theorem isWord_of_mem_last {c : Char} (h : c ∈ s.last) : isWord c = true :=
  (s.last_isTerm.chars c h).1

theorem isWord_head?_joined : ∀ c ∈ (s.joined separator).head?, isWord c = true := by
  have hword {word rest : List Char} (hword : IsTerm word) :
      ∀ c ∈ (word ++ rest).head?, isWord c = true := by
    rw [List.head?_append_of_ne_nil _ hword.ne_nil]
    exact fun c hc => (hword.chars c (List.mem_of_mem_head? hc)).1
  cases hfront : s.front with
  | nil =>
    rw [joined, head, hfront, List.flatMap_nil, List.nil_append, ← List.append_nil s.last]
    exact hword s.last_isTerm
  | cons word front =>
    rw [joined, head, hfront, List.flatMap_cons, List.append_assoc, List.append_assoc]
    exact hword (s.front_isTerm word (hfront ▸ List.mem_cons_self))

theorem isWord_getLast?_joined : ∀ c ∈ (s.joined separator).getLast?, isWord c = true := by
  rw [joined, List.getLast?_append_of_ne_nil _ s.last_isTerm.ne_nil]
  exact fun c hc => s.isWord_of_mem_last (List.mem_of_mem_getLast? hc)

theorem spoken_ne_nil : s.spoken ≠ [] := s.joined_ne_nil

theorem isTrimmed_spoken : IsTrimmed s.spoken where
  front := fun c hc => isBlank_of_isWord (s.isWord_head?_joined c hc)
  back := fun c hc => isBlank_of_isWord (s.isWord_getLast?_joined c hc)

theorem lowerChar_of_mem_joined (hseparator : lowerChar separator = [separator]) :
    ∀ c ∈ s.joined separator, lowerChar c = [c] := by
  intro c hc
  rcases s.mem_joined hc with rfl | hc
  · exact hseparator
  · exact hc.2

theorem small_name : small s.name = s.joined '_' := by
  rw [small, name, String.toList_ofList]
  exact lower_of_forall (s.lowerChar_of_mem_joined (by decide +kernel))

/-- Underscores for the spaces make the name of what is spoken. -/
theorem swapped_spoken : swapped ' ' '_' s.spoken = s.joined '_' := by
  have hword {word : List Char} (h : IsTerm word) : swapped ' ' '_' word = word := by
    refine (List.map_congr_left fun c hc => ?_).trans (List.map_id word)
    refine if_neg fun hspace => ?_
    obtain rfl := eq_of_beq hspace
    exact absurd (h.chars ' ' hc).1 (by decide)
  have hhead : swapped ' ' '_' (s.head ' ') = s.head '_' := by
    rw [swapped, head, List.map_flatMap]
    refine List.flatMap_congr fun word hmem => ?_
    rw [List.map_append, ← swapped, hword (s.front_isTerm word hmem)]
    rfl
  rw [spoken, joined, swapped, List.map_append, ← swapped, ← swapped, hhead,
    hword s.last_isTerm, joined]

theorem length_joined (other : Char) : (s.joined separator).length = (s.joined other).length := by
  simp [joined, head, List.length_flatMap]

/-! ## Names and directions -/

/-- The last of several words does not begin with the name of a direction. -/
def KeepsLast (s : Spelling) : Prop :=
  s.front = [] ∨ ¬ ("desc".toList <+: s.last ∨ "asc".toList <+: s.last)

/-- A rest of what is spoken ends it with a direction exactly when it is the last of several words
and begins with the name of one. -/
theorem exists_direction?_suffix_iff :
    (∃ v d, v <:+ s.spoken.tail ∧ v ≠ [] ∧ direction? v = some d) ↔ ¬ s.KeepsLast := by
  obtain ⟨c, rest, hspoken⟩ := List.exists_cons_of_ne_nil s.spoken_ne_nil
  rw [KeepsLast, not_or, not_not, hspoken, List.tail_cons]
  constructor
  · rintro ⟨v, d, ⟨u, rfl⟩, hne, hd⟩
    rcases direction?_eq_some_iff.mp hd with ⟨rfl, -⟩ | ⟨gap, word, rfl, hgap, hword, hnamed⟩
    · exact absurd rfl hne
    · have hsplit : s.head ' ' ++ s.last = (c :: (u ++ gap)) ++ word := by
        rw [← joined, ← spoken, hspoken, List.cons_append, List.append_assoc]
      have hblank : ∀ x ∈ (c :: (u ++ gap)).getLast?, isWord x = false := by
        intro x hx
        rw [← List.cons_append, List.getLast?_append_of_ne_nil _ hgap.1] at hx
        exact not_isWord_of_isBlank (hgap.2 x (List.mem_of_mem_getLast? hx))
      have hspace : ∀ x ∈ (s.head ' ').getLast?, isWord x = false := by
        intro x hx
        rw [s.getLast?_head x hx]
        decide
      obtain ⟨hhead, rfl⟩ := eq_of_append_words hsplit (fun x hx => s.isWord_of_mem_last hx) hword
        hspace hblank
      refine ⟨fun hfront => ?_, hnamed.imp And.left And.left⟩
      rw [head, hfront, List.flatMap_nil] at hhead
      cases hhead
  · rintro ⟨hfront, hnamed⟩
    obtain ⟨init, word, hinit⟩ := (List.eq_nil_or_concat' s.front).resolve_left hfront
    have hword := s.front_isTerm word (by simp [hinit])
    obtain ⟨d, hd⟩ : ∃ d, "desc".toList <+: s.last ∧ d = Direction.descending ∨
        "asc".toList <+: s.last ∧ d = Direction.ascending := by
      rcases hnamed with h | h
      · exact ⟨_, Or.inl ⟨h, rfl⟩⟩
      · exact ⟨_, Or.inr ⟨h, rfl⟩⟩
    refine ⟨' ' :: s.last, d, ?_, List.cons_ne_nil _ _, direction?_eq_some_iff.mpr (Or.inr
      ⟨[' '], s.last, rfl, isGap_space, fun x hx => s.isWord_of_mem_last hx, hd⟩)⟩
    have hsplit : c :: rest = (init.flatMap (· ++ [' ']) ++ word) ++ ' ' :: s.last := by
      rw [← hspoken, spoken, joined, head, hinit, List.flatMap_append, List.flatMap_singleton]
      simp only [List.append_assoc, List.singleton_append]
    have htail := congrArg List.tail hsplit
    rw [List.tail_cons,
      List.tail_append_of_ne_nil (List.append_ne_nil_of_right_ne_nil _ hword.ne_nil)] at htail
    exact ⟨_, htail.symm⟩

end Spelling

/-- How a question ends for a direction. -/
def Direction.asked : Direction → List Char
  | .ascending => []
  | .descending => " desc".toList

theorem Direction.length_asked_le (d : Direction) : d.asked.length ≤ 5 := by
  cases d <;> decide

theorem direction?_asked (d : Direction) : direction? d.asked = some d := by
  cases d <;> decide

namespace Spelling

variable (s : Spelling)

/-- The direction behind a name does not begin earlier, unless the last word of the name is taken
for one. -/
theorem forall_suffix_iff (d : Direction) :
    (∀ v, v <:+ s.spoken.tail → v ≠ [] → direction? (v ++ d.asked) = none) ↔
      (d = .ascending → s.KeepsLast) := by
  cases d with
  | ascending =>
    rw [imp_iff_right rfl, ← not_iff_not, ← s.exists_direction?_suffix_iff]
    simp only [Direction.asked, List.append_nil, not_forall, ← ne_eq, Option.ne_none_iff_exists',
      exists_prop, exists_and_left]
  | descending =>
    refine iff_of_true (fun v hv hne => ?_) fun h => by cases h
    refine Option.eq_none_iff_forall_ne_some.mpr fun d hd => ?_
    have hlast : ∀ c ∈ v.getLast?, isWord c = true := by
      obtain ⟨u, hu⟩ := hv.trans (List.tail_suffix _)
      have hspoken : ∀ c ∈ s.spoken.getLast?, isWord c = true := s.isWord_getLast?_joined
      rwa [← hu, List.getLast?_append_of_ne_nil _ hne] at hspoken
    rcases direction?_eq_some_iff.mp hd with ⟨hnil, -⟩ | ⟨gap, word, hsplit, hgap, hword, -⟩
    · exact hne (List.append_eq_nil_iff.mp hnil).1
    · have hsame : (v ++ [' ']) ++ "desc".toList = gap ++ word := by
        rw [← hsplit, List.append_assoc]
        rfl
      have hspace : ∀ c ∈ (v ++ [' ']).getLast?, isWord c = false := by
        rw [List.getLast?_concat]
        rintro c ⟨⟩
        decide
      have hdesc : ∀ c ∈ "desc".toList, isWord c = true := List.all_eq_true.mp (by decide)
      have hblank : ∀ c ∈ gap.getLast?, isWord c = false := fun c hc =>
        not_isWord_of_isBlank (hgap.2 c (List.mem_of_mem_getLast? hc))
      obtain ⟨rfl, -⟩ := eq_of_append_words hsame hdesc hword hspace hblank
      have hmem : v.getLast hne ∈ v ++ [' '] := List.mem_append_left _ (List.getLast_mem hne)
      have hno := not_isWord_of_isBlank (hgap.2 _ hmem)
      rw [hlast _ (List.getLast?_eq_some_getLast hne)] at hno
      cases hno

/-- Up to its direction, a sort phrase has the whole of what is spoken as its name exactly when
names may have these characters and no direction begins earlier. -/
theorem sortName?_spoken_iff (d : Direction) :
    sortName? (s.spoken ++ d.asked) = some (s.spoken, d) ↔
      (∀ c ∈ s.spoken, isNameChar c = true) ∧ (d = .ascending → s.KeepsLast) := by
  rw [sortName?_eq_some_iff, ← s.forall_suffix_iff d]
  constructor
  · rintro ⟨after, hsplit, -, hchars, -, hshort⟩
    obtain rfl := List.append_cancel_left hsplit
    exact ⟨hchars, hshort⟩
  · rintro ⟨hchars, hshort⟩
    exact ⟨d.asked, rfl, s.joined_ne_nil, hchars, direction?_asked d, hshort⟩

/-- A name as long as what is spoken needs the same. -/
theorem of_sortName?_of_length {name : List Char} {d : Direction}
    (h : sortName? (s.spoken ++ d.asked) = some (name, d))
    (hlength : s.spoken.length ≤ name.length) :
    (∀ c ∈ s.spoken, isNameChar c = true) ∧ (d = .ascending → s.KeepsLast) := by
  obtain ⟨after, hsplit, -, hchars, -⟩ := sortName?_eq_some_iff.mp h
  have hname : name <+: s.spoken ++ d.asked := ⟨after, hsplit.symm⟩
  have hinside : s.spoken <+: name :=
    List.prefix_of_prefix_length_le (List.prefix_append _ _) hname hlength
  cases d with
  | ascending =>
    rw [Direction.asked, List.append_nil] at hname
    obtain rfl := hinside.eq_of_length_le hname.length_le
    exact (s.sortName?_spoken_iff .ascending).mp h
  | descending => exact ⟨fun c hc => hchars c (hinside.subset hc), fun h => by cases h⟩

end Spelling

/-! ## The first sort phrase -/

/-- The text holds a sort phrase in front of which a word may begin. -/
def HoldsSortPhrase (s : List Char) : Prop :=
  ∃ before phrase after, s = before ++ phrase ++ after ∧ wordAt before.getLast? = false ∧
    IsSortPhrase phrase

/-- Blanks in front of a text take no sort phrase away. -/
theorem HoldsSortPhrase.append_blanks {blanks s : List Char}
    (hblanks : ∀ c ∈ blanks, isBlank c = true) (h : HoldsSortPhrase s) :
    HoldsSortPhrase (blanks ++ s) := by
  obtain ⟨before, phrase, after, rfl, hbefore, hphrase⟩ := h
  refine ⟨blanks ++ before, phrase, after, by simp only [List.append_assoc], ?_, hphrase⟩
  cases before with
  | nil =>
    rw [List.append_nil]
    cases hlast : blanks.getLast? with
    | none => rfl
    | some c => exact not_isWord_of_isBlank (hblanks c (List.mem_of_getLast? hlast))
  | cons c before => rwa [List.getLast?_append_of_ne_nil _ (List.cons_ne_nil _ _)]

theorem IsSortPhrase.facts {phrase : List Char} (h : IsSortPhrase phrase) :
    phrase ≠ [] ∧ wordAt phrase.head? = true ∧ 's' ∉ phrase.tail ∧ 8 ≤ phrase.length := by
  obtain ⟨word, hword, gap, last, rfl, hgap, hlast⟩ := h
  have hwords : ∀ word ∈ sortWords, word.toList ≠ [] ∧ wordAt word.toList.head? = true ∧
      's' ∉ word.toList.tail ∧ 4 ≤ word.toList.length := by decide
  obtain ⟨hne, hhead, hs, hlength⟩ := hwords word hword
  have hblank {gap : List Char} (hgap : IsGap gap) : 's' ∉ gap ∧ 0 < gap.length :=
    ⟨fun h => absurd (hgap.2 's' h) (by decide), List.length_pos_iff.mpr hgap.1⟩
  obtain ⟨hgap, hgapLength⟩ := hblank hgap
  obtain ⟨hlast, hlastLength⟩ := hblank hlast
  rw [List.append_assoc, List.append_assoc]
  refine ⟨List.append_ne_nil_of_left_ne_nil hne _, ?_, ?_, ?_⟩
  · rwa [List.head?_append_of_ne_nil _ hne]
  · rw [List.tail_append_of_ne_nil hne]
    simp [hs, hgap, hlast]
  · simp only [List.length_append, String.reduceToList, List.length_cons, List.length_nil]
    omega

/-- A search goes on behind a text in which nothing is found. -/
theorem firstAtWordAfter?_append {α : Type} {pattern : List Char → Option α}
    {front rest : List Char} {x : Option Char} (h : ∀ u v, front = u ++ v → v ≠ [] →
      boundary (lastOr x u) v.head? = true → pattern (v ++ rest) = none) :
    firstAtWordAfter? pattern x (front ++ rest) =
      firstAtWordAfter? pattern (lastOr x front) rest := by
  induction front generalizing x with
  | nil => simp [lastOr]
  | cons c front ih =>
    have hrest := ih (x := some c) fun u v hfront hne hb => by
      refine h (c :: u) v (by rw [hfront, List.cons_append]) hne ?_
      rwa [lastOr_cons]
    have hnone :
        (if boundary x (some c) = true then pattern (c :: front ++ rest) else none) = none := by
      split
      · rename_i hb
        refine h [] (c :: front) rfl (List.cons_ne_nil _ _) ?_
        simpa [lastOr] using hb
      · rfl
    rw [List.cons_append, firstAtWordAfter?, Option.orElse_eq_orElse, Option.orElse_eq_or,
      ← List.cons_append, hnone, Option.none_or, hrest, lastOr_cons]

/-- No sort phrase begins in front of `sorted by` when none is held there. -/
theorem sortHere?_append_eq_none {u v : List Char} (rest : List Char)
    (hnone : ¬ HoldsSortPhrase (u ++ v)) (hne : v ≠ [])
    (hb : boundary (lastOr none u) v.head? = true) :
    sortHere? (v ++ ("sorted by ".toList ++ rest)) = none := by
  refine Option.eq_none_iff_forall_ne_some.mpr fun ⟨name, d⟩ hhere => ?_
  obtain ⟨phrase, others, hsame, hphrase, -⟩ := sortHere?_eq_some_iff.mp hhere
  obtain ⟨hphraseNe, hword, hs, -⟩ := hphrase.facts
  have hhead : wordAt v.head? = true := by
    have hheads := congrArg List.head? hsame
    rw [List.head?_append_of_ne_nil _ hne, List.head?_append_of_ne_nil _ hphraseNe] at hheads
    rwa [hheads]
  have hu : wordAt u.getLast? = false := by
    rw [lastOr_none, boundary, hhead] at hb
    simpa using hb
  rcases List.append_eq_append_iff.mp hsame with ⟨w, rfl, hw⟩ | ⟨w, rfl, -⟩
  · cases w with
    | nil =>
      rw [List.append_nil] at hphrase
      exact hnone ⟨u, v, [], by rw [List.append_nil], hu, hphrase⟩
    | cons c w =>
      -- The phrase would go on into the word `sorted`.
      obtain rfl : 's' = c := (List.cons.inj hw).1
      rw [List.tail_append_of_ne_nil hne] at hs
      exact hs (List.mem_append_right _ List.mem_cons_self)
  · exact hnone ⟨u, phrase, w, by rw [List.append_assoc], hu, hphrase⟩

/-- What follows `sorted by` is a name and a direction, if no further blank comes first. -/
theorem sortHere?_sortedBy {rest : List Char} (hrest : ∀ c ∈ rest.head?, isBlank c = false) :
    sortHere? ("sorted by ".toList ++ rest) = sortName? rest := by
  have hsorted : afterWord? sortWords ("sorted by ".toList ++ rest) = some ("by ".toList ++ rest) :=
    (afterWord?_eq_some_iff no_blank_of_sortWords).mpr ⟨"sorted", by decide, [' '], isGap_space,
      rfl, by rintro c ⟨⟩; decide⟩
  have hby : after? "by" ("by ".toList ++ rest) = some (' ' :: rest) :=
    after?_eq_some_iff.mpr rfl
  have hone : sortNameAfter? rest = none :=
    sortNameAfter?_eq_none_iff.mpr (namesNoneAfterGap_of_head? hrest)
  have hname : sortNameAfter? (' ' :: rest) = sortName? rest := by
    rw [sortNameAfter?, if_pos (by decide), hone]
    rfl
  have hbind : sortHere? ("sorted by ".toList ++ rest) =
      (afterWord? sortWords ("sorted by ".toList ++ rest)).bind fun others =>
        (after? "by" others).bind sortNameAfter? := rfl
  rw [hbind, hsorted, Option.bind_some, hby, Option.bind_some, hname]

/-- Behind text that ends apart and holds no sort phrase, `sorted by` is the first one. If no name
follows it, the search goes on in what does. -/
theorem sortPhrase?_append {front rest : List Char} (hfront : EndsApart front)
    (hnone : ¬ HoldsSortPhrase front) (hrest : ∀ c ∈ rest.head?, isBlank c = false) :
    sortPhrase? (front ++ ("sorted by ".toList ++ rest)) =
      (sortName? rest).or (firstAtWordAfter? sortHere? (some ' ') rest) := by
  have hbefore (u v : List Char) (hsplit : front = u ++ v) (hne : v ≠ [])
      (hb : boundary (lastOr none u) v.head? = true) :
      sortHere? (v ++ ("sorted by ".toList ++ rest)) = none :=
    sortHere?_append_eq_none rest (hsplit ▸ hnone) hne hb
  have hapart : wordAt (lastOr none front) = false := by
    rw [lastOr_none]
    exact wordAt_of_apart hfront
  have hstart : boundary (lastOr none front) (some 's') = true := by
    rw [boundary, hapart]
    decide
  -- No phrase begins inside `sorted by`.
  have hinside : firstAtWordAfter? sortHere? (some 's') ("orted by ".toList ++ rest) =
      firstAtWordAfter? sortHere? (some ' ') rest := rfl
  have hcons : "sorted by ".toList ++ rest = 's' :: ("orted by ".toList ++ rest) := rfl
  rw [sortPhrase?, firstAtWord?, firstAtWordAfter?_append hbefore, hcons, firstAtWordAfter?,
    Option.orElse_eq_orElse, Option.orElse_eq_or, if_pos hstart, ← hcons, sortHere?_sortedBy hrest,
    hinside]

/-- The name of a sort phrase is shorter than the text that holds it. -/
theorem length_of_firstAtWordAfter? {s name : List Char} {d : Direction} {x : Option Char}
    (h : firstAtWordAfter? sortHere? x s = some (name, d)) : name.length + 8 ≤ s.length := by
  obtain ⟨place, hplace, hhere⟩ := firstAtWordAfter?_eq_some h
  obtain ⟨phrase, rest, rfl, hphrase, hname, -⟩ := sortHere?_eq_some_iff.mp hhere
  obtain ⟨after, rfl, -⟩ := sortName?_eq_some_iff.mp hname
  obtain ⟨-, -, -, hlength⟩ := hphrase.facts
  have hle := hplace.length_le
  simp only [List.length_append] at hle
  omega

/-! ## Questions that ask to sort by spelled names -/

namespace Spelling

variable (s : Spelling)

/-- The question that asks, after some other text, to sort by the name as it is spoken. -/
def question (before : String) (d : Direction) : String :=
  before ++ "sorted by " ++ String.ofList (s.spoken ++ d.asked)

theorem normalized_question {before : String} (hbefore : EndsApart before.toList) (d : Direction) :
    normalized (s.question before d) =
      lower (trimStart before.toList) ++ ("sorted by ".toList ++ (s.spoken ++ d.asked)) := by
  have hsorted : ∀ c ∈ "sorted by ".toList, lowerChar c = [c] :=
    forall_lowerChar_of_all (by decide +kernel)
  have hasked : ∀ c ∈ d.asked, lowerChar c = [c] :=
    forall_lowerChar_of_all (by cases d <;> decide +kernel)
  have hsmall : lower ("sorted by ".toList ++ (s.spoken ++ d.asked)) =
      "sorted by ".toList ++ (s.spoken ++ d.asked) := by
    refine lower_of_forall fun c hc => ?_
    rcases List.mem_append.mp hc with hc | hc
    · exact hsorted c hc
    · rcases List.mem_append.mp hc with hc | hc
      · exact s.lowerChar_of_mem_joined (by decide +kernel) c hc
      · exact hasked c hc
  have htrimmed : IsTrimmed ("sorted by ".toList ++ (s.spoken ++ d.asked)) := by
    refine ⟨by rintro c ⟨⟩; decide, ?_⟩
    rw [← List.append_assoc]
    cases d with
    | ascending =>
      rw [Direction.asked, List.append_nil, List.getLast?_append_of_ne_nil _ s.spoken_ne_nil]
      exact s.isTrimmed_spoken.back
    | descending =>
      rw [List.getLast?_append_of_ne_nil _ (by decide)]
      rintro c ⟨⟩
      decide
  have hlist : (s.question before d).toList =
      before.toList ++ ("sorted by ".toList ++ (s.spoken ++ d.asked)) ++ [] := by
    simp only [question, String.toList_append, String.toList_ofList, List.append_assoc,
      List.append_nil]
  rw [normalized, hlist, trim_around htrimmed _ _ (List.append_ne_nil_of_left_ne_nil (by decide) _)]
  have hnil : trimEnd [] = [] := rfl
  rw [hnil, List.append_nil, lower_append_of_endsApart hbefore.trimStart, hsmall]

/-- A column that a sort phrase finds has no longer a name than the phrase. -/
theorem length_le_of_sortColumn? {names : List String} {phrase : List Char}
    (h : sortColumn? names phrase = some s.name) : s.spoken.length ≤ phrase.length := by
  have htrim : (trim phrase).length ≤ phrase.length := (trim_isInfix phrase).length_le
  have hsmall := small_of_sortColumn? h
  rw [s.small_name] at hsmall
  rw [spoken, s.length_joined '_']
  rcases hsmall with hsame | hsame
  · rwa [hsame]
  · rwa [hsame, swapped, List.length_map]

/-- Among names that are spelled in words, what is spoken finds its own column. -/
theorem sortColumn?_spoken {columns : List Spelling} (hmem : s ∈ columns) :
    sortColumn? (columns.map name) s.spoken = some s.name := by
  have hfound : findColumn? (columns.map name) (s.joined '_') = some s.name := by
    cases hfind : findColumn? (columns.map name) (s.joined '_') with
    | none =>
      have hno := List.find?_eq_none.mp hfind s.name
        (List.mem_reverse.mpr (List.mem_map_of_mem hmem))
      rw [s.small_name, BEq.rfl] at hno
      exact absurd rfl hno
    | some found =>
      obtain ⟨other, -, rfl⟩ := List.mem_map.mp (findColumn?_mem hfind)
      have hsmall := small_of_findColumn? hfind
      rw [other.small_name] at hsmall
      rw [name, name, hsmall]
  have hnamed : (!s.name.isEmpty) = true := by
    simpa [name] using s.joined_ne_nil
  rw [sortColumn?, s.isTrimmed_spoken.trim_eq, s.swapped_spoken, hfound, Option.filter_some,
    if_pos hnamed]
  rfl

/-- **A question to sort by a name that is spelled in words sorts by its column, in the direction
asked for, exactly when its limit can be read, the name has only letters, digits and underscores of
ASCII, and its last word is not taken for the direction.** -/
theorem ordersBy_iff {columns : List Spelling} (hmem : s ∈ columns) {before : String}
    (hbefore : EndsApart before.toList) (hsort : ¬ HoldsSortPhrase (lower before.toList))
    (d : Direction) :
    (∃ p, Plan.ofQuestion (s.question before d) ((columns.map name).map .text) = .ok p ∧
        p.orderBy = some s.name ∧ p.descending = (d == .descending)) ↔
      LimitReadable (normalized (s.question before d)) ∧
        (∀ c ∈ s.spoken, isNameChar c = true) ∧ (d = .ascending → s.KeepsLast) := by
  have hnone : ¬ HoldsSortPhrase (lower (trimStart before.toList)) := by
    intro hholds
    have hblanks : ∀ c ∈ before.toList.takeWhile isBlank, isBlank c = true :=
      fun c hc => List.mem_takeWhile_imp hc
    have hlower := lower_append_of_blanks hblanks (trimStart before.toList)
    rw [trimStart, List.takeWhile_append_dropWhile] at hlower
    exact hsort (hlower ▸ hholds.append_blanks hblanks)
  have hrest : ∀ c ∈ (s.spoken ++ d.asked).head?, isBlank c = false := by
    rw [List.head?_append_of_ne_nil _ s.spoken_ne_nil]
    exact s.isTrimmed_spoken.front
  have hphrase := sortPhrase?_append hbefore.trimStart.lower hnone hrest
  rw [← s.normalized_question hbefore d] at hphrase
  refine exists_ofQuestion_iff fun p hp => ?_
  obtain ⟨-, horder, hdescending⟩ := eq_of_ofQuestion hp
  rw [horder, hdescending]
  constructor
  · rintro ⟨hname, hd⟩
    obtain ⟨⟨_, found⟩, hsorted, rfl⟩ := Option.map_eq_some_iff.mp hname
    obtain rfl : found = d := by
      rw [hsorted] at hd
      cases found <;> cases d <;> first | rfl | cases hd
    obtain ⟨token, htoken, hcolumn⟩ := sortedBy?_eq_some_iff.mp hsorted
    have hlength := s.length_le_of_sortColumn? hcolumn
    rw [hphrase, Option.or_eq_some_iff] at htoken
    rcases htoken with hfirst | ⟨-, hlater⟩
    · exact s.of_sortName?_of_length hfirst hlength
    · have hshort := length_of_firstAtWordAfter? hlater
      rw [List.length_append] at hshort
      have hasked := found.length_asked_le
      omega
  · intro hspoken
    have hname := (s.sortName?_spoken_iff d).mpr hspoken
    rw [hname, Option.some_or] at hphrase
    have hsorted : sortedBy? (normalized (s.question before d)) (columns.map name) =
        some (s.name, d) :=
      sortedBy?_eq_some_iff.mpr ⟨s.spoken, hphrase, s.sortColumn?_spoken hmem⟩
    rw [hsorted]
    exact ⟨rfl, rfl⟩

/-- The column `order_date`. -/
def orderDate : Spelling where
  front := ["order".toList]
  last := "date".toList
  front_isTerm := List.forall_mem_singleton.mpr (by decide)
  last_isTerm := by decide

/-- The column `product_description`, whose last word begins with the name of a direction. -/
def productDescription : Spelling where
  front := ["product".toList]
  last := "description".toList
  front_isTerm := List.forall_mem_singleton.mpr (by decide)
  last_isTerm := by decide

/-- A word in front that is no sort phrase, and a column of two words. -/
theorem ordersBy_orderDate :
    ∃ p, Plan.ofQuestion "Orders sorted by order date"
        (["product_description", "order_date"].map .text) = .ok p ∧
      p.orderBy = some "order_date" ∧ p.descending = false := by
  have hsort : ¬ HoldsSortPhrase (lower "Orders ".toList) := by
    rintro ⟨before, phrase, after, hsplit, -, hphrase⟩
    obtain ⟨-, -, -, hlength⟩ := hphrase.facts
    have hsame := congrArg List.length hsplit
    rw [show (lower "Orders ".toList).length = 7 by decide +kernel, List.length_append,
      List.length_append] at hsame
    omega
  have hquestion : orderDate.question "Orders " .ascending = "Orders sorted by order date" := by
    decide
  have hlimit : LimitReadable (normalized (orderDate.question "Orders " .ascending)) :=
    exists_limitOf_iff.mp ⟨none, by decide +kernel⟩
  rw [← hquestion]
  have hmem : orderDate ∈ [productDescription, orderDate] := by simp
  exact (orderDate.ordersBy_iff hmem (by decide) hsort .ascending).mpr
    ⟨hlimit, List.all_eq_true.mp (by decide), fun _ => Or.inr (by decide)⟩

/-- No column is found when the last of several words is taken for a direction. -/
theorem orderBy_productDescription :
    productDescription.question "" .ascending = "sorted by product description" ∧
      productDescription.name = "product_description" ∧
      Plan.ofQuestion "sorted by product description" (["product_description"].map .text) =
        .ok ⟨["product_description"], none, false, none⟩ :=
  ⟨by decide, by decide, by decide +kernel⟩

end Spelling

end AskTable.Question

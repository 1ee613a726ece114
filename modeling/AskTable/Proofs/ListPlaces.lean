import AskTable.Proofs.SelectLists
import Mathlib.Order.Bounds.Basic
import Mathlib.Order.Nat

/-!
# The select list by its places

The pattern of a select list is tried at one place after another, and in one way after another. The
list can also be told without trying anything, by three places: that of `SELECT`, that of the first
character after it, and that of the nearest `FROM` behind a blank.

* `pieces_eq_iff`: the pieces of a list.
* `BlankAt`, `FilledAt`, `WordAt`: what stands at a place.
* `ListBegins`, `FromAfter`: where a list begins, and where it may end.
* `Lists`: the list of a text, told by these places.
* `afterSelect?_eq_some_iff`, `trimStart_drop_eq`, `beforeFrom?_drop_eq_some_iff`: the places at
  which the scans of a text stop.
* `selectList?_told_by_places`: the pattern and the places tell the same list.
-/

namespace AskTable.Statement

open AskTable.Text

/-- The list of a text is made of the pieces between its commas. -/
theorem pieces_eq_iff {text : List Char} {list : List String} :
    pieces text = list ↔ ArePieces text list :=
  map_trim_splitOn_eq_iff

/-! ## Places -/

/-- A character stands at a place, and it is a blank or is none. -/
def StandsAt (blank : Bool) (s : List Char) (i : Nat) : Prop :=
  ∃ c, s[i]? = some c ∧ isBlank c = blank

/-- A blank stands at a place. -/
abbrev BlankAt : List Char → Nat → Prop := StandsAt true

/-- A character that is no blank stands at a place. -/
abbrev FilledAt : List Char → Nat → Prop := StandsAt false

/-- A word is written from a place on, in letters of either case. -/
def WordAt (word s : List Char) (i : Nat) : Prop :=
  ∃ written, Writes word written ∧ written <+: s.drop i

/-- The first `SELECT` with a blank after it stands at `p`, and the first character after it that is
no blank at `q`. -/
structure ListBegins (s : List Char) (p q : Nat) : Prop where
  select : IsLeast {i | WordAt selectWord s i ∧ BlankAt s (i + 6)} p
  first : IsLeast {i | p + 6 ≤ i ∧ FilledAt s i} q

/-- A `FROM` stands at `i`, after `q` and behind a blank. -/
def FromAfter (s : List Char) (q i : Nat) : Prop :=
  q < i ∧ WordAt fromWord s i ∧ BlankAt s (i - 1)

/-- The select list of a text, told by places. -/
inductive Lists (s : List Char) : List String → Prop
  /-- The pieces of the text from `q` up to the nearest `FROM`, without the blanks before it. -/
  | upTo {p q f : Nat} {list : List String} : ListBegins s p q → IsLeast {i | FromAfter s q i} f →
      ArePieces (trimEnd ((s.take f).drop q)) list → Lists s list
  /-- When there is none, but a `FROM` at `q` itself, after three blanks or more: nothing. -/
  | nothing {p q : Nat} : ListBegins s p q → (∀ i, ¬ FromAfter s q i) → WordAt fromWord s q →
      p + 6 + 3 ≤ q → Lists s [""]

theorem ListBegins.unique {s : List Char} {p q p' q' : Nat} (h : ListBegins s p q)
    (h' : ListBegins s p' q') : p = p' ∧ q = q' := by
  obtain rfl := h.select.unique h'.select
  exact ⟨rfl, h.first.unique h'.first⟩

theorem blankAt_iff {s : List Char} {i : Nat} :
    BlankAt s i ↔ (s.drop i).head?.any isBlank = true := by
  rw [List.head?_drop, Option.any_eq_true]
  rfl

theorem wordAt_fromWord_iff {s : List Char} {i : Nat} :
    WordAt fromWord s i ↔ startsFrom (s.drop i) = true := by
  rw [startsFrom, Option.isSome_iff_exists, WordAt]
  simp only [dropKeyword?_eq_some_iff]
  constructor
  · rintro ⟨written, hw, rest, hs⟩
    exact ⟨rest, written, hw, hs.symm⟩
  · rintro ⟨rest, written, hw, hs⟩
    exact ⟨written, hw, rest, hs.symm⟩

theorem standsAt_drop {blank : Bool} {s : List Char} {n i : Nat} :
    StandsAt blank (s.drop n) i ↔ StandsAt blank s (n + i) := by
  rw [StandsAt, List.getElem?_drop]
  rfl

theorem wordAt_drop {word s : List Char} {n i : Nat} :
    WordAt word (s.drop n) i ↔ WordAt word s (n + i) := by
  rw [WordAt, List.drop_drop]
  rfl

/-- Places from some place on, counted from there. -/
theorem isLeast_add_iff {P : Nat → Prop} {n i : Nat} :
    IsLeast {j | n ≤ j ∧ P j} (n + i) ↔ IsLeast {j | P (n + j)} i := by
  constructor
  · intro h
    refine ⟨h.1.2, fun j hj => ?_⟩
    have hle := h.2 ⟨Nat.le_add_right n j, hj⟩
    omega
  · intro h
    refine ⟨⟨Nat.le_add_right n i, h.1⟩, fun j hj => ?_⟩
    obtain ⟨k, rfl⟩ := Nat.exists_eq_add_of_le hj.1
    have hle := h.2 hj.2
    omega

/-! ## SELECT -/

variable {s : List Char} {p q : Nat}

theorem selectHere?_drop_eq_some_iff {rest : List Char} :
    selectHere? (s.drop p) = some rest ↔
      (WordAt selectWord s p ∧ BlankAt s (p + 6)) ∧ rest = s.drop (p + 6) := by
  have hrest {written t : List Char} (hw : Writes selectWord written)
      (ht : s.drop p = written ++ t) : t = s.drop (p + 6) := by
    have hlength : written.length = 6 := hw.length_eq.symm
    rw [← List.drop_drop, ht, ← hlength, List.drop_left]
  rw [selectHere?_eq_some_iff, dropKeyword?_eq_some_iff, blankAt_iff]
  constructor
  · rintro ⟨⟨written, hw, hs⟩, hblank⟩
    obtain rfl := hrest hw hs
    exact ⟨⟨⟨written, hw, _, hs.symm⟩, hblank⟩, rfl⟩
  · rintro ⟨⟨⟨written, hw, t, ht⟩, hblank⟩, rfl⟩
    rw [← hrest hw ht.symm] at hblank ⊢
    exact ⟨⟨written, hw, ht.symm⟩, hblank⟩

/-- What follows the first `SELECT` with a blank behind it. -/
theorem afterSelect?_eq_some_iff {rest : List Char} :
    afterSelect? s = some rest ↔
      ∃ p, IsLeast {i | WordAt selectWord s i ∧ BlankAt s (i + 6)} p ∧ rest = s.drop (p + 6) := by
  have hset : {i | (selectHere? (s.drop i)).isSome = true} =
      {i | WordAt selectWord s i ∧ BlankAt s (i + 6)} := by
    ext i
    rw [Set.mem_ofPred_eq, Set.mem_ofPred_eq, Option.isSome_iff_exists]
    simp only [selectHere?_drop_eq_some_iff, exists_and_left, exists_eq, and_true]
  rw [afterSelect?_eq, firstAt?_eq_some_iff, hset]
  refine exists_congr fun p => and_congr_right fun hp => ?_
  rw [selectHere?_drop_eq_some_iff]
  exact and_iff_right hp.1

/-! ## The first character -/

theorem exists_isLeast_filledAt {t : List Char} (h : trimStart t ≠ []) :
    ∃ i, IsLeast {i | FilledAt t i} i ∧ trimStart t = t.drop i := by
  induction t with
  | nil => exact absurd rfl h
  | cons c t ih =>
    cases hc : isBlank c with
    | false => exact ⟨0, isLeast_zero ⟨c, rfl, hc⟩, trimStart_cons_of_not hc t⟩
    | true =>
      have htrim : trimStart (c :: t) = trimStart t := by simp [trimStart, hc]
      rw [htrim] at h ⊢
      obtain ⟨i, hi, hdrop⟩ := ih h
      have hzero : ¬ FilledAt (c :: t) 0 := by
        rintro ⟨d, hd, hfilled⟩
        cases hd
        rw [hc] at hfilled
        cases hfilled
      exact ⟨i + 1, (isLeast_succ_iff hzero).mpr hi, hdrop⟩

/-- The text after some blanks begins at the first place that holds no blank. -/
theorem trimStart_drop_eq {n : Nat} (hq : IsLeast {i | n ≤ i ∧ FilledAt s i} q) :
    trimStart (s.drop n) = s.drop q := by
  obtain ⟨i, rfl⟩ := Nat.exists_eq_add_of_le hq.1.1
  have hi : IsLeast {i | FilledAt (s.drop n) i} i := by
    simpa only [standsAt_drop] using isLeast_add_iff.mp hq
  have hne : trimStart (s.drop n) ≠ [] := by
    obtain ⟨c, hc, hfilled⟩ := hi.1
    intro hnil
    rw [trimStart, List.dropWhile_eq_nil_iff] at hnil
    rw [hnil c (List.mem_of_getElem? hc)] at hfilled
    cases hfilled
  obtain ⟨j, hj, hdrop⟩ := exists_isLeast_filledAt hne
  rw [hdrop, List.drop_drop, hj.unique hi]

theorem exists_isLeast_of_trimStart_ne_nil {n : Nat} (h : trimStart (s.drop n) ≠ []) :
    ∃ q, IsLeast {i | n ≤ i ∧ FilledAt s i} q := by
  obtain ⟨i, hi, -⟩ := exists_isLeast_filledAt h
  simp only [standsAt_drop] at hi
  exact ⟨n + i, isLeast_add_iff.mpr hi⟩

/-! ## FROM -/

/-- A `FROM` behind a blank, told by the place of the blank. -/
theorem beforeFrom?_eq_some_iff {t list : List Char} :
    beforeFrom? t = some list ↔
      ∃ i, IsLeast {i | BlankAt t i ∧ WordAt fromWord t (i + 1)} i ∧ list = t.take i := by
  induction t generalizing list with
  | nil =>
    refine ⟨(nomatch ·), ?_⟩
    rintro ⟨i, ⟨⟨⟨c, hc, -⟩, -⟩, -⟩, -⟩
    simp at hc
  | cons c t ih =>
    have hzero : (BlankAt (c :: t) 0 ∧ WordAt fromWord (c :: t) (0 + 1)) ↔
        (isBlank c && startsFrom t) = true := by
      rw [blankAt_iff, wordAt_fromWord_iff, Bool.and_eq_true]
      rfl
    rw [beforeFrom?]
    split
    · rename_i h
      have hleast : IsLeast {i | BlankAt (c :: t) i ∧ WordAt fromWord (c :: t) (i + 1)} 0 :=
        isLeast_zero (hzero.mpr h)
      refine ⟨fun hlist => ⟨0, hleast, (Option.some.inj hlist).symm⟩, ?_⟩
      rintro ⟨i, hi, rfl⟩
      rw [hi.unique hleast, List.take_zero]
    · rename_i h
      have hsucc (i : Nat) :
          IsLeast {i | BlankAt (c :: t) i ∧ WordAt fromWord (c :: t) (i + 1)} (i + 1) ↔
            IsLeast {i | BlankAt t i ∧ WordAt fromWord t (i + 1)} i :=
        isLeast_succ_iff fun hfirst => h (hzero.mp hfirst)
      rw [Option.map_eq_some_iff]
      constructor
      · rintro ⟨list, hlist, rfl⟩
        obtain ⟨i, hi, rfl⟩ := ih.mp hlist
        exact ⟨i + 1, (hsucc i).mpr hi, rfl⟩
      · rintro ⟨i, hi, rfl⟩
        cases i with
        | zero => exact absurd (hzero.mp hi.1) h
        | succ i => exact ⟨t.take i, ih.mpr ⟨i, (hsucc i).mp hi, rfl⟩, rfl⟩

/-- A `FROM` behind a blank after a place, told by its own place in the whole text. -/
theorem beforeFrom?_drop_eq_some_iff {list : List Char} :
    beforeFrom? (s.drop q) = some list ↔
      ∃ f, IsLeast {i | FromAfter s q i} f ∧ list = (s.take (f - 1)).drop q := by
  have hplaces (i : Nat) :
      IsLeast {j | FromAfter s q j} (q + 1 + i) ↔
        IsLeast {j | BlankAt (s.drop q) j ∧ WordAt fromWord (s.drop q) (j + 1)} i := by
    have hset : {j | BlankAt (s.drop q) j ∧ WordAt fromWord (s.drop q) (j + 1)} =
        {j | WordAt fromWord s (q + 1 + j) ∧ BlankAt s (q + 1 + j - 1)} := by
      ext j
      have hblank : q + 1 + j - 1 = q + j := by omega
      have hword : q + 1 + j = q + (j + 1) := by omega
      rw [Set.mem_ofPred_eq, Set.mem_ofPred_eq, hblank, hword]
      exact (and_congr standsAt_drop wordAt_drop).trans and_comm
    rw [hset]
    exact isLeast_add_iff
  have htake (i : Nat) : (s.take (q + 1 + i - 1)).drop q = (s.drop q).take i := by
    have hlast : q + 1 + i - 1 = q + i := by omega
    rw [hlast, List.drop_take, Nat.add_sub_cancel_left]
  rw [beforeFrom?_eq_some_iff]
  constructor
  · rintro ⟨i, hi, rfl⟩
    exact ⟨q + 1 + i, (hplaces i).mpr hi, (htake i).symm⟩
  · rintro ⟨f, hf, rfl⟩
    obtain ⟨i, rfl⟩ := Nat.exists_eq_add_of_le (Nat.succ_le_of_lt hf.1.1)
    exact ⟨i, (hplaces i).mp hf, htake i⟩

/-- The blank before a `FROM` is in no piece of the list. -/
theorem pieces_take_eq {f : Nat} (hf : FromAfter s q f) :
    pieces ((s.take (f - 1)).drop q) = pieces (trimEnd ((s.take f).drop q)) := by
  obtain ⟨hlt, -, c, hc, hblank⟩ := hf
  obtain ⟨n, rfl⟩ : ∃ n, f = q + n + 1 := ⟨f - q - 1, by omega⟩
  have htake : (s.take (q + n + 1)).drop q = (s.take (q + n)).drop q ++ [c] := by
    rw [Nat.add_sub_cancel] at hc
    rw [List.take_add_one, hc, List.drop_append_of_le_length]
    · rfl
    · rw [List.length_take]
      have hlast := (List.getElem?_eq_some_iff.mp hc).1
      omega
  rw [pieces_trimEnd, htake, Nat.add_sub_cancel]
  exact (pieces_append_blanks _ (by simpa using hblank)).symm

/-! ## The whole list -/

section

variable (h : ListBegins s p q)
include h

theorem ListBegins.afterSelect?_eq : afterSelect? s = some (s.drop (p + 6)) :=
  afterSelect?_eq_some_iff.mpr ⟨p, h.select, rfl⟩

theorem ListBegins.selectList?_of_some {list : List Char}
    (hbefore : beforeFrom? (s.drop q) = some list) : selectList? s = some (pieces list) := by
  simp only [selectList?, h.afterSelect?_eq, trimStart_drop_eq h.first, hbefore]

/-- Without a `FROM` behind a blank, the blanks between the two words decide. -/
theorem ListBegins.selectList?_of_none (hbefore : beforeFrom? (s.drop q) = none) :
    selectList? s = if startsFrom (s.drop q) && p + 6 + 3 ≤ q then some [""] else none := by
  have hthree : 3 ≤ (s.drop (p + 6)).length - (s.drop q).length ↔ p + 6 + 3 ≤ q := by
    obtain ⟨c, hc, -⟩ := h.first.1.2
    have hlt := (List.getElem?_eq_some_iff.mp hc).1
    rw [List.length_drop, List.length_drop]
    omega
  simp only [selectList?, h.afterSelect?_eq, trimStart_drop_eq h.first, hbefore, hthree]

end

theorem exists_listBegins {list : List String} (h : selectList? s = some list) :
    ∃ p q, ListBegins s p q := by
  rw [selectList?] at h
  cases hafter : afterSelect? s with
  | none =>
    rw [hafter] at h
    cases h
  | some rest =>
    obtain ⟨p, hp, rfl⟩ := afterSelect?_eq_some_iff.mp hafter
    rw [hafter] at h
    by_cases hnil : trimStart (s.drop (p + 6)) = []
    · -- only blanks follow, and no word is among them
      simp only [hnil] at h
      cases h
    · obtain ⟨q, hq⟩ := exists_isLeast_of_trimStart_ne_nil hnil
      exact ⟨p, q, hp, hq⟩

theorem Lists.exists_listBegins {list : List String} (h : Lists s list) :
    ∃ p q, ListBegins s p q := by
  cases h with
  | upTo hbegins => exact ⟨_, _, hbegins⟩
  | nothing hbegins => exact ⟨_, _, hbegins⟩

theorem Lists.upTo_iff {f : Nat} (hbegins : ListBegins s p q)
    (hf : IsLeast {i | FromAfter s q i} f) {list : List String} :
    Lists s list ↔ list = pieces (trimEnd ((s.take f).drop q)) := by
  rw [eq_comm, pieces_eq_iff]
  refine ⟨fun h => ?_, .upTo hbegins hf⟩
  cases h with
  | upTo hbegins' hf' hpieces =>
    obtain ⟨rfl, rfl⟩ := hbegins.unique hbegins'
    rwa [hf.unique hf']
  | nothing hbegins' hnone =>
    obtain ⟨rfl, rfl⟩ := hbegins.unique hbegins'
    exact absurd hf.1 (hnone f)

theorem Lists.nothing_iff (hbegins : ListBegins s p q) (hnone : ∀ i, ¬ FromAfter s q i)
    {list : List String} :
    Lists s list ↔ (WordAt fromWord s q ∧ p + 6 + 3 ≤ q) ∧ list = [""] := by
  refine ⟨fun h => ?_, fun ⟨⟨hfrom, hthree⟩, h⟩ => h ▸ .nothing hbegins hnone hfrom hthree⟩
  cases h with
  | upTo hbegins' hf =>
    obtain ⟨rfl, rfl⟩ := hbegins.unique hbegins'
    exact absurd hf.1 (hnone _)
  | nothing hbegins' _ hfrom hthree =>
    obtain ⟨rfl, rfl⟩ := hbegins.unique hbegins'
    exact ⟨⟨hfrom, hthree⟩, rfl⟩

theorem ListBegins.lists_iff (h : ListBegins s p q) {list : List String} :
    selectList? s = some list ↔ Lists s list := by
  cases hbefore : beforeFrom? (s.drop q) with
  | some before =>
    obtain ⟨f, hf, rfl⟩ := beforeFrom?_drop_eq_some_iff.mp hbefore
    rw [h.selectList?_of_some hbefore, Lists.upTo_iff h hf, ← pieces_take_eq hf.1]
    exact Option.some_inj.trans eq_comm
  | none =>
    have hnone (i : Nat) : ¬ FromAfter s q i := by
      -- if there was any, there would be a nearest one
      intro hi
      classical
      have hleast := Nat.isLeast_find (p := FromAfter s q) ⟨i, hi⟩
      rw [beforeFrom?_drop_eq_some_iff.mpr ⟨_, hleast, rfl⟩] at hbefore
      cases hbefore
    rw [h.selectList?_of_none hbefore, Lists.nothing_iff h hnone, wordAt_fromWord_iff]
    simp only [Option.ite_none_right_eq_some, Bool.and_eq_true, decide_eq_true_eq,
      Option.some.injEq]
    exact and_congr_right fun _ => eq_comm

/-- The select list of a text is the list that its places tell. -/
theorem selectList?_eq_some_iff {list : List String} :
    selectList? s = some list ↔ Lists s list := by
  constructor
  · intro h
    obtain ⟨p, q, hbegins⟩ := exists_listBegins h
    exact hbegins.lists_iff.mp h
  · intro h
    obtain ⟨p, q, hbegins⟩ := h.exists_listBegins
    exact hbegins.lists_iff.mpr h

/-- **The select list** is told by places: it holds the pieces of the text between the first `SELECT`
and the nearest `FROM`. This is the text that the pattern takes. -/
theorem selectList?_told_by_places (s : List Char) (list : List String) :
    (selectList? s = some list ↔ Lists s list) ∧
      (selectList? s = some list ↔ ∃ text, selectPattern.search? s = some text ∧
        ArePieces text list) := by
  refine ⟨selectList?_eq_some_iff, ?_⟩
  rw [selectList?_eq_search?, Option.map_eq_some_iff]
  simp only [pieces_eq_iff]

/-- Names in any letter case with blanks around them; a name that begins with `FROM` ends the list,
three blanks are an empty list, and one blank is none. -/
theorem selectList?_told_by_places_spaced :
    Lists "Select  Name , unit price,\ttotal\nFrom T".toList ["Name", "unit price", "total"] ∧
      Lists "SELECT name, from_city FROM T".toList ["name", ""] ∧
      Lists "SELECT   FROM T".toList [""] ∧
      ∀ list, ¬ Lists "SELECT FROM T".toList list := by
  refine ⟨(selectList?_told_by_places _ _).1.mp (by decide +kernel),
    (selectList?_told_by_places _ _).1.mp (by decide +kernel),
    (selectList?_told_by_places _ _).1.mp (by decide +kernel), fun list hlist => ?_⟩
  have hnone : selectList? "SELECT FROM T".toList = none := by decide +kernel
  rw [(selectList?_told_by_places _ _).1.mpr hlist] at hnone
  cases hnone

end AskTable.Statement

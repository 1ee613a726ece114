import AskTable.Proofs.Patterns
import AskTable.Proofs.Pieces
import AskTable.Statement.SelectList
import Mathlib.Data.List.Forall2

/-!
# The select list as a pattern

The select list is what a pattern takes: `SELECT`, blanks, a list, blanks, `FROM`. Three of these
five can be longer or shorter, so a text may fit in several ways and at several places, and only the
first one counts. No other way has to be tried than the one that the two scans of a text go.

* `pieces_trimEnd`: blanks at the end of a list are in none of its pieces.
* `selectPattern`: the pattern.
* `here?_eq`: after `SELECT`, the pattern takes a list.
* `listHere?_append_of_some`, `listHere?_append_of_none`: the list after a run of blanks, when
  a `FROM` behind a blank follows and when none does.
* `search?_eq`: later places than the first `SELECT` with a blank behind it give nothing new.
* `selectList?_eq_search?`: the select list is made of the pieces of what the pattern takes.
-/

namespace AskTable.Statement

open AskTable.Text

/-- Blanks at the end of a list are in none of its pieces. -/
theorem pieces_append_blanks (list : List Char) {blanks : List Char}
    (h : ∀ c ∈ blanks, isBlank c = true) : pieces (list ++ blanks) = pieces list := by
  have hcomma : ',' ∉ blanks := fun hm => absurd (h ',' hm) (by decide)
  have hpieces : List.Forall₂
      (fun piece old => String.ofList (trim piece) = String.ofList (trim old))
      (splitOn ',' (list ++ blanks)) (splitOn ',' list) := by
    refine (splitOn_append hcomma list).imp fun piece old hp => ?_
    rcases hp with rfl | rfl
    · rfl
    · rw [trim_append_blanks old h]
  exact List.forall₂_eq_eq_eq ▸
    List.forall₂_map_left_iff.mpr (List.forall₂_map_right_iff.mpr hpieces)

theorem pieces_trimEnd (list : List Char) : pieces (trimEnd list) = pieces list := by
  obtain ⟨blanks, hblanks, hlist⟩ := exists_trimEnd_append list
  rw [← pieces_append_blanks (trimEnd list) hblanks, ← hlist]

/-! ## The pattern -/

/-- `SELECT`, blanks, a list, blanks, `FROM`: as many blanks as possible, and as short a list. -/
def selectPattern : GroupPattern where
  before := .chain (.word selectWord) (.most isBlank)
  group := .fewest fun _ => true
  after := .chain (.most isBlank) (.word fromWord)

/-- No letter of the two words is a blank. -/
theorem isBlank_of_mem_letterForms {k : Char} (hk : k ∈ selectWord ++ fromWord) :
    k.toLower = k ∧ ∀ c ∈ letterForms k, isBlank c = false := by
  have hall : ((selectWord ++ fromWord).all fun k =>
      k.toLower == k && (letterForms k).all fun c => !isBlank c) = true := by decide +kernel
  simpa using List.all_eq_true.mp hall k hk

theorem sameLetter_of_isBlank {k c : Char} (hk : k ∈ selectWord ++ fromWord)
    (hc : isBlank c = true) : sameLetter k c = false := by
  obtain ⟨hlow, hforms⟩ := isBlank_of_mem_letterForms hk
  rw [Bool.eq_false_iff]
  intro h
  rw [hforms c (mem_letterForms hlow h)] at hc
  cases hc

theorem startsFrom_of_isBlank {c : Char} (hc : isBlank c = true) (s : List Char) :
    startsFrom (c :: s) = false := by
  have hf : sameLetter 'f' c = false := sameLetter_of_isBlank (by decide) hc
  have hw : fromWord = ['f', 'r', 'o', 'm'] := rfl
  rw [startsFrom, hw, dropKeyword?, hf]
  rfl

/-! ## Ends of a list -/

/-- Do blanks stand here, with a `FROM` right after them? -/
def endsHere (s : List Char) : Bool := (dropBlanks? s).any startsFrom

/-- The shortest text with such an end, but not an empty one. -/
def untilEnd? : List Char → Option (List Char)
  | [] => none
  | c :: s => if endsHere s then some [c] else (untilEnd? s).map (c :: ·)

theorem endsHere_cons (c : Char) (s : List Char) :
    endsHere (c :: s) = (isBlank c && (startsFrom s || endsHere s)) := by
  rw [endsHere, dropBlanks?]
  cases hc : isBlank c with
  | false => rfl
  | true =>
    rw [if_pos rfl, Option.any_some, Bool.true_and]
    cases s with
    | nil => rfl
    | cons d s =>
      cases hd : isBlank d with
      | false => simp [trimStart_cons_of_not hd, endsHere, dropBlanks?, hd]
      | true => simp [trimStart, hd, endsHere, dropBlanks?, startsFrom_of_isBlank hd]

/-- What stands before the nearest `FROM` is all blank exactly if the text begins with such an
end. -/
theorem endsHere_iff (s : List Char) :
    endsHere s = true ↔ ∃ list, beforeFrom? s = some list ∧ ∀ c ∈ list, isBlank c = true := by
  induction s with
  | nil => simp [endsHere, dropBlanks?, beforeFrom?]
  | cons c s ih =>
    rw [endsHere_cons, beforeFrom?]
    cases hc : isBlank c <;> cases hs : startsFrom s <;> simp [hc, ih]

/-- The shortest text with an end is what stands before the nearest `FROM`, without the blanks at
its end. -/
theorem untilEnd?_eq {s : List Char} (h : endsHere s = false) :
    untilEnd? s = (beforeFrom? s).map trimEnd := by
  induction s with
  | nil => rfl
  | cons c s ih =>
    rw [endsHere_cons] at h
    cases hs : endsHere s with
    | true =>
      obtain ⟨list, hlist, hblank⟩ := (endsHere_iff s).mp hs
      rw [hs, Bool.or_true, Bool.and_true] at h
      have htrim : trimEnd (c :: list) = [c] := by
        rw [trimEnd_cons, if_neg (by simp [h]), trimEnd_of_blanks hblank]
      simp [untilEnd?, hs, beforeFrom?, h, hlist, htrim]
    | false =>
      rw [hs, Bool.or_false] at h
      have htrim : ∀ list, beforeFrom? s = some list → trimEnd (c :: list) = c :: trimEnd list := by
        intro list hlist
        rw [trimEnd_cons, if_neg]
        intro hall
        have hends := (endsHere_iff s).mpr
          ⟨list, hlist, fun d hd => List.all_eq_true.mp hall d (List.mem_cons_of_mem _ hd)⟩
        rw [hs] at hends
        cases hends
      rw [untilEnd?, hs, if_neg Bool.false_ne_true, ih hs, beforeFrom?, h,
        if_neg Bool.false_ne_true]
      cases hlist : beforeFrom? s with
      | none => rfl
      | some list => simp [htrim list hlist]

/-! ## Lists after a `SELECT` -/

/-- What the pattern takes for a list after `SELECT`. -/
def listHere? (s : List Char) : Option (List Char) := takeMost? isBlank (fun _ => untilEnd?) s

theorem listHere?_cons (c : Char) (s : List Char) :
    listHere? (c :: s) = if isBlank c then listHere? s <|> untilEnd? s else none := rfl

/-- After a list, the pattern takes blanks and `FROM`. -/
theorem after_take? (list s : List Char) :
    selectPattern.after.take? (fun _ _ => some list) s = if endsHere s then some list else none := by
  have hrefused : ∀ (taken : List Char) c t, isBlank c = true →
      (dropKeyword? fromWord (c :: t)).bind (fun _ => some list) = none := by
    intro taken c t hc
    have hno := startsFrom_of_isBlank hc t
    rw [startsFrom, Option.isSome_eq_false_iff, Option.isNone_iff_eq_none] at hno
    rw [hno]
    rfl
  have htake : selectPattern.after.take? (fun _ _ => some list) s =
      takeMost? isBlank (fun _ t => (dropKeyword? fromWord t).bind fun _ => some list) s := rfl
  rw [htake, takeMost?_of_refused hrefused]
  cases s with
  | nil => rfl
  | cons c s =>
    cases hc : isBlank c with
    | false => simp [hc, endsHere, dropBlanks?]
    | true =>
      have hdrop : (c :: s).dropWhile isBlank = trimStart s := by simp [hc, trimStart]
      simp only [List.head?_cons, Option.any_some, hc, if_true, hdrop, endsHere, dropBlanks?,
        startsFrom]
      cases dropKeyword? fromWord (trimStart s) <;> rfl

/-- Of the texts that may be the list, the shortest is taken. -/
theorem takeFewest?_eq (f : List Char → List Char) (s : List Char) :
    takeFewest? (fun _ => true) (fun taken rest => if endsHere rest then some (f taken) else none) s
      = (untilEnd? s).map f := by
  induction s generalizing f with
  | nil => rfl
  | cons c s ih =>
    rw [takeFewest?, if_pos rfl, ih fun taken => f (c :: taken), untilEnd?]
    cases endsHere s with
    | true => rfl
    | false => simp [Function.comp_def]

/-- After `SELECT`, the pattern takes a list. -/
theorem here?_eq (s : List Char) :
    selectPattern.here? s = (dropKeyword? selectWord s).bind listHere? := by
  have hafter : (fun taken => selectPattern.after.take? fun _ _ => some taken) =
      fun taken rest => if endsHere rest then some (id taken) else none :=
    funext fun taken => funext fun rest => after_take? taken rest
  have hgroup : (selectPattern.group.take? fun taken => selectPattern.after.take? fun _ _ =>
      some taken) = untilEnd? := by
    funext rest
    rw [hafter]
    exact (takeFewest?_eq id rest).trans (by rw [Option.map_id, id_eq])
  rw [GroupPattern.here?, hgroup]
  rfl

/-! ## Several blanks -/

/-- No list is taken where no blank stands. -/
theorem listHere?_of_not_blank {s : List Char} (h : ∀ c ∈ s.head?, isBlank c = false) :
    listHere? s = none := by
  cases s with
  | nil => rfl
  | cons c s => rw [listHere?_cons, h c rfl, if_neg Bool.false_ne_true]

/-- No list ends where no blank stands. -/
theorem endsHere_of_not_blank {s : List Char} (h : ∀ c ∈ s.head?, isBlank c = false) :
    endsHere s = false := by
  cases s with
  | nil => rfl
  | cons c s => rw [endsHere_cons, h c rfl, Bool.false_and]

section

variable {blanks body : List Char} (hblanks : ∀ c ∈ blanks, isBlank c = true)
  (hbody : ∀ c ∈ body.head?, isBlank c = false)
include hblanks hbody

/-- Between blanks and a text that does not begin with one, a list can end only if that text begins
with `FROM`. -/
theorem endsHere_append :
    endsHere (blanks ++ body) = (!blanks.isEmpty && startsFrom body) := by
  induction blanks with
  | nil => rw [List.nil_append, endsHere_of_not_blank hbody]; rfl
  | cons c blanks ih =>
    have hc := hblanks c List.mem_cons_self
    have ih := ih fun d hd => hblanks d (List.mem_cons_of_mem _ hd)
    rw [List.cons_append, endsHere_cons, ih, hc]
    cases blanks with
    | nil => simp
    | cons d blanks => simp [startsFrom_of_isBlank (hblanks d (by simp))]

/-- Where no `FROM` stands behind a blank any more, a list that begins with blanks is found only
between the first of them and a `FROM` right after the others. -/
theorem untilEnd?_append (hnone : beforeFrom? body = none) :
    untilEnd? (blanks ++ body) =
      if startsFrom body = true ∧ 2 ≤ blanks.length then some (blanks.take 1) else none := by
  induction blanks with
  | nil =>
    rw [List.nil_append, untilEnd?_eq (endsHere_of_not_blank hbody), hnone]
    simp
  | cons c blanks ih =>
    have hrest : ∀ d ∈ blanks, isBlank d = true := fun d hd => hblanks d (List.mem_cons_of_mem _ hd)
    rw [List.cons_append, untilEnd?, endsHere_append hrest hbody, ih hrest]
    cases startsFrom body <;> cases blanks <;> simp

/-- Where no `FROM` stands behind a blank any more, a list is found only between `SELECT` and a
`FROM` right after three blanks or more, and then it is a blank. -/
theorem listHere?_append_of_none (hnone : beforeFrom? body = none) :
    if startsFrom body = true ∧ 3 ≤ blanks.length then
      ∃ c, isBlank c = true ∧ listHere? (blanks ++ body) = some [c]
    else listHere? (blanks ++ body) = none := by
  induction blanks with
  | nil => simp [listHere?_of_not_blank hbody]
  | cons c blanks ih =>
    have hrest : ∀ d ∈ blanks, isBlank d = true := fun d hd => hblanks d (List.mem_cons_of_mem _ hd)
    have ih := ih hrest
    rw [List.cons_append, listHere?_cons, if_pos (hblanks c List.mem_cons_self), List.length_cons]
    by_cases hthree : startsFrom body = true ∧ 3 ≤ blanks.length
    · -- the first run of blanks is as long as it can be
      rw [if_pos hthree] at ih
      obtain ⟨d, hd, hlist⟩ := ih
      rw [if_pos ⟨hthree.1, by omega⟩, hlist]
      exact ⟨d, hd, rfl⟩
    · rw [if_neg hthree] at ih
      rw [ih, untilEnd?_append hrest hbody hnone]
      by_cases htwo : startsFrom body = true ∧ 2 ≤ blanks.length
      · obtain ⟨d, rest, rfl⟩ := List.exists_cons_of_length_pos (l := blanks) (by omega)
        rw [if_pos ⟨htwo.1, by omega⟩, if_pos htwo]
        exact ⟨d, hrest d List.mem_cons_self, rfl⟩
      · rw [if_neg fun h => htwo ⟨h.1, by omega⟩, if_neg htwo]
        rfl

/-- The list that the pattern takes goes up to the nearest `FROM` behind a blank. -/
theorem listHere?_append_of_some (hne : blanks ≠ []) {list : List Char}
    (hlist : beforeFrom? body = some list) :
    listHere? (blanks ++ body) = some (trimEnd list) := by
  induction blanks with
  | nil => exact absurd rfl hne
  | cons c blanks ih =>
    have hrest : ∀ d ∈ blanks, isBlank d = true := fun d hd => hblanks d (List.mem_cons_of_mem _ hd)
    rw [List.cons_append, listHere?_cons, if_pos (hblanks c List.mem_cons_self)]
    cases blanks with
    | nil =>
      rw [List.nil_append, listHere?_of_not_blank hbody,
        untilEnd?_eq (endsHere_of_not_blank hbody), hlist]
      rfl
    | cons d blanks => rw [ih hrest (List.cons_ne_nil d blanks)]; rfl

end

/-! ## Several words -/

theorem beforeFrom?_cons_eq_none {c : Char} {s : List Char} (h : beforeFrom? (c :: s) = none) :
    (isBlank c = true → startsFrom s = false) ∧ beforeFrom? s = none := by
  rw [beforeFrom?] at h
  cases hc : isBlank c <;> cases hs : startsFrom s <;> simp_all

theorem beforeFrom?_of_suffix {s t : List Char} (h : t <:+ s) (hnone : beforeFrom? s = none) :
    beforeFrom? t = none := by
  induction s with
  | nil => rw [List.suffix_nil.mp h, hnone]
  | cons c s ih =>
    rcases List.suffix_cons_iff.mp h with rfl | h
    · exact hnone
    · exact ih h (beforeFrom?_cons_eq_none hnone).2

/-- Blanks and the text after them. -/
theorem exists_blanks_append (s : List Char) :
    ∃ blanks, (∀ c ∈ blanks, isBlank c = true) ∧ s = blanks ++ trimStart s ∧
      ∀ c ∈ (trimStart s).head?, isBlank c = false :=
  ⟨s.takeWhile isBlank, fun _ hc => List.mem_takeWhile_imp hc,
    List.takeWhile_append_dropWhile.symm, head?_trimStart s⟩

theorem ne_nil_of_head?_any {s blanks body : List Char} (h : s.head?.any isBlank = true)
    (hs : s = blanks ++ body) (hbody : ∀ c ∈ body.head?, isBlank c = false) : blanks ≠ [] := by
  rintro rfl
  rw [hs, List.nil_append, Option.any_eq_true] at h
  obtain ⟨c, hc, hblank⟩ := h
  rw [hbody c hc] at hblank
  cases hblank

/-- Where no `FROM` stands behind a blank, no list is taken. -/
theorem listHere?_eq_none {s : List Char} (h : beforeFrom? s = none) : listHere? s = none := by
  obtain ⟨blanks, hblanks, hs, hbody⟩ := exists_blanks_append s
  rw [hs] at h ⊢
  have hnone : beforeFrom? (trimStart s) = none := beforeFrom?_of_suffix (List.suffix_append _ _) h
  have hlist := listHere?_append_of_none hblanks hbody hnone
  rwa [if_neg] at hlist
  rintro ⟨hfrom, hthree⟩
  have hne : blanks ≠ [] := by
    rintro rfl
    simp at hthree
  obtain ⟨front, last, rfl⟩ := (List.eq_nil_or_concat' blanks).resolve_left hne
  have hlast := beforeFrom?_of_suffix (t := last :: trimStart s) (by simp) h
  rw [(beforeFrom?_cons_eq_none hlast).1 (hblanks last (by simp))] at hfrom
  cases hfrom

/-- Where no `FROM` stands behind a blank, the pattern takes nothing anywhere. -/
theorem search?_eq_none {s : List Char} (h : beforeFrom? s = none) :
    selectPattern.search? s = none := by
  have hhere {t : List Char} (ht : t <:+ s) : selectPattern.here? t = none := by
    rw [here?_eq, Option.bind_eq_none_iff]
    intro rest hrest
    obtain ⟨written, -, rfl⟩ := dropKeyword?_eq_some_iff.mp hrest
    exact listHere?_eq_none (beforeFrom?_of_suffix ((List.suffix_append written rest).trans ht) h)
  clear h
  induction s with
  | nil => exact hhere List.suffix_rfl
  | cons c s ih =>
    refine (firstAt?_cons_of_none (hhere List.suffix_rfl)).trans (ih fun ht => ?_)
    exact hhere (ht.trans (List.suffix_cons c s))

/-- Characters that do not write the first letter of `SELECT` can be passed over. -/
theorem search?_append {front : List Char} (h : ∀ c ∈ front, sameLetter 's' c = false)
    (s : List Char) : selectPattern.search? (front ++ s) = selectPattern.search? s := by
  induction front with
  | nil => rfl
  | cons c front ih =>
    have hc : dropKeyword? selectWord (c :: (front ++ s)) = none := by
      have hw : selectWord = 's' :: "elect".toList := rfl
      rw [hw, dropKeyword?, h c List.mem_cons_self, if_neg Bool.false_ne_true]
    have hhere : selectPattern.here? (c :: (front ++ s)) = none := by rw [here?_eq, hc]; rfl
    exact (firstAt?_cons_of_none hhere).trans (ih fun d hd => h d (List.mem_cons_of_mem _ hd))

/-- No letter of `SELECT` after the first is written like the first. -/
theorem sameLetter_of_writes {written : List Char} (h : Writes "elect".toList written) :
    ∀ c ∈ written, sameLetter 's' c = false := by
  have hall : ("elect".toList.all fun letter => letter.toLower == letter &&
      (letterForms letter).all fun c => !sameLetter 's' c) = true := by decide +kernel
  have hforms : ∀ letter ∈ "elect".toList, letter.toLower = letter ∧
      ∀ c ∈ letterForms letter, sameLetter 's' c = false :=
    fun letter hletter => by simpa using List.all_eq_true.mp hall letter hletter
  intro c hc
  obtain ⟨letter, hletter, hform⟩ := h.exists_letter (fun l hl => (hforms l hl).1) c hc
  exact (hforms letter hletter).2 c hform

theorem selectHere?_eq_some_iff {s rest : List Char} :
    selectHere? s = some rest ↔
      dropKeyword? selectWord s = some rest ∧ rest.head?.any isBlank = true := by
  rw [selectHere?, Option.filter_eq_some_iff]

/-- What follows the first `SELECT` with a blank behind it, told by its place. -/
theorem afterSelect?_eq (s : List Char) : afterSelect? s = firstAt? selectHere? s := by
  induction s with
  | nil => rfl
  | cons c s ih => rw [afterSelect?, firstAt?, ih]

theorem head?_any_of_afterSelect? {s rest : List Char} (h : afterSelect? s = some rest) :
    rest.head?.any isBlank = true := by
  rw [afterSelect?_eq, firstAt?_eq_some_iff] at h
  obtain ⟨i, -, hi⟩ := h
  exact (selectHere?_eq_some_iff.mp hi).2

/-- After a `SELECT` without a list, the pattern takes nothing either: no `FROM` is left for it. -/
theorem search?_of_listHere? {s rest : List Char} {c : Char}
    (hselect : selectHere? (c :: s) = some rest) (hlist : listHere? rest = none) :
    selectPattern.search? s = none := by
  obtain ⟨hdrop, hblank⟩ := selectHere?_eq_some_iff.mp hselect
  obtain ⟨written, hwritten, hs⟩ := dropKeyword?_eq_some_iff.mp hdrop
  have hw : selectWord = 's' :: "elect".toList := rfl
  rw [hw] at hwritten
  cases hwritten with
  | @cons _ d _ letters _ hletters =>
    obtain ⟨blanks, hblanks, hrest, hbody⟩ := exists_blanks_append rest
    have hne := ne_nil_of_head?_any hblank hrest hbody
    have hnone : beforeFrom? (trimStart rest) = none := by
      refine Option.eq_none_iff_forall_ne_some.mpr fun list hbefore => ?_
      rw [hrest, listHere?_append_of_some hblanks hbody hne hbefore] at hlist
      cases hlist
    have hpassed : ∀ b ∈ blanks, sameLetter 's' b = false :=
      fun b hb => sameLetter_of_isBlank (by decide) (hblanks b hb)
    have hs : s = letters ++ rest := (List.cons.inj hs).2
    rw [hs, search?_append (sameLetter_of_writes hletters), hrest, search?_append hpassed,
      search?_eq_none hnone]

/-- The pattern takes what stands after the first `SELECT` with a blank behind it. -/
theorem search?_eq (s : List Char) :
    selectPattern.search? s = (afterSelect? s).bind listHere? := by
  induction s with
  | nil => rfl
  | cons c s ih =>
    rw [afterSelect?]
    cases hselect : selectHere? (c :: s) with
    | none =>
      have hhere : selectPattern.here? (c :: s) = none := by
        rw [here?_eq, Option.bind_eq_none_iff]
        intro rest hrest
        refine listHere?_of_not_blank fun d hd => Bool.eq_false_iff.mpr fun hblank => ?_
        have hany : rest.head?.any isBlank = true := by
          rw [Option.mem_def.mp hd]
          exact hblank
        rw [selectHere?_eq_some_iff.mpr ⟨hrest, hany⟩] at hselect
        cases hselect
      exact (firstAt?_cons_of_none hhere).trans ih
    | some rest =>
      have hhere : selectPattern.here? (c :: s) = listHere? rest := by
        rw [here?_eq, (selectHere?_eq_some_iff.mp hselect).1, Option.bind_some]
      cases hlist : listHere? rest with
      | none =>
        rw [hlist] at hhere
        exact (firstAt?_cons_of_none hhere).trans
          ((search?_of_listHere? hselect hlist).trans hlist.symm)
      | some list =>
        exact (firstAt?_of_some (hhere.trans hlist)).trans hlist.symm

/-- **The select list** is made of the pieces of what the pattern takes. -/
theorem selectList?_eq_search? (s : List Char) :
    selectList? s = (selectPattern.search? s).map pieces := by
  rw [search?_eq, selectList?]
  cases hafter : afterSelect? s with
  | none => rfl
  | some rest =>
    obtain ⟨blanks, hblanks, hrest, hbody⟩ := exists_blanks_append rest
    have hlength : rest.length - (trimStart rest).length = blanks.length := by
      have hsum := congrArg List.length hrest
      rw [List.length_append] at hsum
      omega
    rw [Option.bind_some]
    simp only [hlength]
    cases hbefore : beforeFrom? (trimStart rest) with
    | some list =>
      have hne := ne_nil_of_head?_any (head?_any_of_afterSelect? hafter) hrest hbody
      rw [hrest, listHere?_append_of_some hblanks hbody hne hbefore, Option.map_some,
        pieces_trimEnd]
    | none =>
      have hlist := listHere?_append_of_none hblanks hbody hbefore
      rw [← hrest] at hlist
      simp only [Bool.and_eq_true, decide_eq_true_eq]
      split at hlist
      · rename_i hthree
        obtain ⟨c, hc, hlist⟩ := hlist
        have hpiece : pieces [c] = [""] := by
          have hblank : ∀ d ∈ [c], isBlank d = true := by simpa using hc
          exact pieces_append_blanks [] hblank
        rw [if_pos hthree, hlist, Option.map_some, hpiece]
      · rename_i hthree
        rw [if_neg hthree, hlist, Option.map_none]

end AskTable.Statement

import AskTable.Proofs.ListPlaces
import AskTable.Proofs.ReadBack
import AskTable.Statement.Shape

/-!
# Text after a select list

What stands behind the `FROM` of a select list is never looked at. Further text there may hold any
words, even another `SELECT` and `FROM` or a limit: the places that tell the list are where they
were, and so the statement asks for the same columns.

* `columnsAsked?_eq`: the upper-case form of a text with a select list holds both words.
* `exists_fromAfter`: a list that is not blank ends before a `FROM` behind a blank.
* `ListBegins.append`, `isLeast_fromAfter_append`: further text moves none of the places.
* `execute_append`: the answer is that of the statement without the further text.
-/

namespace AskTable.Statement

open AskTable.Text

variable {s : List Char} {p q : Nat}

/-! ## Upper-case forms -/

theorem upperChar_of_mem_letterForms {letter c : Char} (hletter : letter ∈ selectWord ++ fromWord)
    (hc : c ∈ letterForms letter) : upperChar c = [letter.toUpper] := by
  have hall : ((selectWord ++ fromWord).all fun letter =>
      (letterForms letter).all fun c => upperChar c == [letter.toUpper]) = true := by
    decide +kernel
  exact beq_iff_eq.mp (List.all_eq_true.mp (List.all_eq_true.mp hall letter hletter) c hc)

/-- The upper-case form of a text that has one of the two words holds it in capitals. -/
theorem mentions_of_wordAt {piece : String} {word : List Char}
    (hpiece : piece.toList = word.map Char.toUpper) (hword : word ⊆ selectWord ++ fromWord)
    {i : Nat} (h : WordAt word s i) : mentions piece (upper s) = true := by
  obtain ⟨written, hw, hs⟩ := h
  have hupper : upper written = word.map Char.toUpper := by
    refine hw.upper_eq fun letter hletter c _ hc => ?_
    have hsmall := (isBlank_of_mem_letterForms (hword hletter)).1
    exact upperChar_of_mem_letterForms (hword hletter) (mem_letterForms hsmall hc)
  rw [mentions_iff, hpiece, ← hupper]
  exact upper_infix (hs.isInfix.trans (List.drop_suffix i s).isInfix)

theorem Lists.wordAt {list : List String} (h : Lists s list) :
    ∃ i j, WordAt selectWord s i ∧ WordAt fromWord s j := by
  cases h with
  | upTo hbegins hf => exact ⟨_, _, hbegins.select.1.1, hf.1.2.1⟩
  | nothing hbegins _ hfrom => exact ⟨_, _, hbegins.select.1.1, hfrom⟩

/-- The columns that a text selects are those of its select list. -/
theorem columnsAsked?_eq (s : List Char) :
    columnsAsked? s = (selectList? s).map fun list => list.map Token.ofText := by
  rw [columnsAsked?]
  cases hlist : selectList? s with
  | none => simp
  | some list =>
    obtain ⟨i, j, hselect, hfrom⟩ := (selectList?_eq_some_iff.mp hlist).wordAt
    have hfirst : mentions "SELECT" (upper s) = true :=
      mentions_of_wordAt (by decide) (by decide) hselect
    have hsecond : mentions "FROM" (upper s) = true :=
      mentions_of_wordAt (by decide) (by decide) hfrom
    rw [hfirst, hsecond]
    rfl

theorem ofText_of_selectList? {list : List String} (hlist : selectList? s = some list)
    (hstar : mentions "SELECT *" (upper s) = false) :
    Shape.ofText s = .columns (list.map Token.ofText) := by
  rw [Shape.ofText, hstar, columnsAsked?_eq, hlist]
  rfl

/-! ## Places in a longer text -/

theorem wordAt_append {word : List Char} {i : Nat} (h : i + word.length ≤ s.length)
    (t : List Char) : WordAt word (s ++ t) i ↔ WordAt word s i := by
  have hdrop : (s ++ t).drop i = s.drop i ++ t := List.drop_append_of_le_length (by omega)
  rw [WordAt, hdrop]
  refine exists_congr fun written => and_congr_right fun hw => ⟨fun hs => ?_, fun hs => ?_⟩
  · refine List.prefix_of_prefix_length_le hs (List.prefix_append _ t) ?_
    rw [← hw.length_eq, List.length_drop]
    omega
  · exact hs.trans (List.prefix_append _ t)

theorem WordAt.length_le {word : List Char} {i : Nat} (h : WordAt word s i) :
    word.length ≤ s.length - i := by
  obtain ⟨written, hw, hs⟩ := h
  rw [hw.length_eq, ← List.length_drop]
  exact hs.length_le

theorem standsAt_append {blank : Bool} {i : Nat} (h : i < s.length) (t : List Char) :
    StandsAt blank (s ++ t) i ↔ StandsAt blank s i := by
  rw [StandsAt, List.getElem?_append_left h]
  rfl

theorem StandsAt.lt {blank : Bool} {i : Nat} (h : StandsAt blank s i) : i < s.length := by
  obtain ⟨c, hc, -⟩ := h
  exact (List.getElem?_eq_some_iff.mp hc).1

/-- A least place is least as well for what holds at the same places up to it. -/
theorem isLeast_of_agree {P Q : Nat → Prop} {n : Nat} (hn : IsLeast {i | P i} n)
    (h : ∀ i ≤ n, P i ↔ Q i) : IsLeast {i | Q i} n := by
  refine ⟨(h n le_rfl).mp hn.1, fun i hi => ?_⟩
  by_contra hlt
  exact hlt (hn.2 ((h i (by omega)).mpr hi))

theorem ListBegins.append (h : ListBegins s p q) (t : List Char) : ListBegins (s ++ t) p q where
  select := by
    -- the blank behind the word is still in `s`, and so is all that decides about earlier places
    have hlt := h.select.1.2.lt
    refine isLeast_of_agree h.select fun i hi => ?_
    have hword : i + selectWord.length ≤ s.length := by
      have hsix : selectWord.length = 6 := rfl
      omega
    exact and_congr (wordAt_append hword t).symm (standsAt_append (by omega) t).symm
  first := by
    have hlt := h.first.1.2.lt
    refine isLeast_of_agree h.first fun i hi => ?_
    exact and_congr_right fun _ => (standsAt_append (by omega) t).symm

theorem FromAfter.length_le {f : Nat} (h : FromAfter s q f) : f + 4 ≤ s.length := by
  have hlength := h.2.1.length_le
  have hfour : fromWord.length = 4 := rfl
  omega

theorem isLeast_fromAfter_append {f : Nat} (h : IsLeast {i | FromAfter s q i} f)
    (t : List Char) : IsLeast {i | FromAfter (s ++ t) q i} f := by
  have hlength := h.1.length_le
  refine isLeast_of_agree h fun i hi => and_congr_right fun _ => ?_
  have hword : i + fromWord.length ≤ s.length := by
    have hfour : fromWord.length = 4 := rfl
    omega
  exact and_congr (wordAt_append hword t).symm (standsAt_append (by omega) t).symm

/-! ## The same list -/

/-- A list that is not all blank ends before a `FROM` behind a blank. -/
theorem exists_fromAfter {list : List Char} (hbegins : ListBegins s p q)
    (hlist : selectPattern.search? s = some list) (hfilled : ∃ c ∈ list, isBlank c = false) :
    ∃ f, IsLeast {i | FromAfter s q i} f := by
  rw [search?_eq, hbegins.afterSelect?_eq, Option.bind_some] at hlist
  obtain ⟨blanks, hblanks, hrest, hbody⟩ := exists_blanks_append (s.drop (p + 6))
  rw [trimStart_drop_eq hbegins.first] at hrest hbody
  cases hbefore : beforeFrom? (s.drop q) with
  | some before =>
    obtain ⟨f, hf, -⟩ := beforeFrom?_drop_eq_some_iff.mp hbefore
    exact ⟨f, hf⟩
  | none =>
    -- then the pattern would take a blank at most
    have hnone := listHere?_append_of_none hblanks hbody hbefore
    rw [← hrest, hlist] at hnone
    split at hnone
    · obtain ⟨c, hc, heq⟩ := hnone
      cases heq
      obtain ⟨d, hd, hno⟩ := hfilled
      rw [List.mem_singleton.mp hd, hc] at hno
      cases hno
    · cases hnone

theorem selectList?_append {list : List Char} (hlist : selectPattern.search? s = some list)
    (hfilled : ∃ c ∈ list, isBlank c = false) (t : List Char) :
    selectList? s = some (pieces list) ∧ selectList? (s ++ t) = some (pieces list) := by
  have hpieces : selectList? s = some (pieces list) := by
    rw [selectList?_eq_search?, hlist, Option.map_some]
  obtain ⟨p, q, hbegins⟩ := exists_listBegins hpieces
  obtain ⟨f, hf⟩ := exists_fromAfter hbegins hlist hfilled
  have htold := (Lists.upTo_iff hbegins hf).mp (selectList?_eq_some_iff.mp hpieces)
  have htake : (s ++ t).take f = s.take f :=
    List.take_append_of_le_length (Nat.le_of_add_right_le hf.1.length_le)
  refine ⟨hpieces, selectList?_eq_some_iff.mpr ?_⟩
  rw [Lists.upTo_iff (hbegins.append t) (isLeast_fromAfter_append hf t), htake]
  exact htold

/-- **Text after a select list** that is not all blank changes nothing about the answer, unless the
whole comes to ask for every column. The answer consists of the columns of the list. -/
theorem execute_append {s t : String} {list : List Char}
    (hlist : selectPattern.search? s.toList = some list)
    (hfilled : ∃ c ∈ list, isBlank c = false)
    (hstar : mentions "SELECT *" (upper (s ++ t).toList) = false) (table : Table) :
    execute (.text (s ++ t)) table = execute (.text s) table ∧
      execute (.text s) table = project ((pieces list).map Token.ofText) table.rows := by
  obtain ⟨hs, happend⟩ := selectList?_append hlist hfilled t.toList
  rw [← String.toList_append] at happend
  have hstarless : mentions "SELECT *" (upper s.toList) = false := by
    rw [Bool.eq_false_iff] at hstar ⊢
    intro h
    refine hstar ((mentions_iff _ _).mpr (((mentions_iff _ _).mp h).trans ?_))
    rw [String.toList_append, upper_append]
    exact (List.prefix_append _ _).isInfix
  rw [execute, execute, Shape.read, Shape.read, ofText_of_selectList? happend hstar,
    ofText_of_selectList? hs hstarless]
  exact ⟨rfl, rfl⟩

/-- One address. -/
def addresses : Table :=
  ⟨[Row.ofList [(.ofText "name", .text "Ada"), (.ofText "city", .text "Oslo"),
    (.ofText "zip", .text "0150")]]⟩

/-- A longer last word, another list with its words, and a limit. -/
theorem execute_append_glued :
    execute (.text ("select name, city from" ++ "age SELECT zip FROM x LIMIT 0")) addresses =
      [Row.ofList [(.ofText "name", .text "Ada"), (.ofText "city", .text "Oslo")]] := by
  have hlist : selectPattern.search? "select name, city from".toList =
      some "name, city".toList := by decide +kernel
  have hstar : mentions "SELECT *"
      (upper ("select name, city from" ++ "age SELECT zip FROM x LIMIT 0").toList) = false := by
    decide +kernel
  obtain ⟨happend, hproject⟩ := execute_append hlist ⟨'n', by decide, by decide⟩ hstar addresses
  rw [happend, hproject]
  rfl

end AskTable.Statement

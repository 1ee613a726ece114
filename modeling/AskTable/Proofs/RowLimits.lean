import AskTable.Proofs.ReadBack
import AskTable.Proofs.SelectLists
import AskTable.Statement.Shape

/-!
# Limits

A limit is a word, blanks and digits. It counts only if two more conditions hold, and otherwise the
statement is answered with every row: the upper-case form of the statement has to hold the word in
capitals, and the digits must not be too many for a number.

* `limitPattern`, `limitDigits?_eq_search?`: the digits of a limit are what a pattern takes.
* `mentions_limit`: only a dotted capital can keep the word out of the upper-case form.
* `execute_limit`: the rows that a statement with a limit asks for.
* `unheeded_dotted_padded`: each condition fails for some statement that asks for one row.
-/

namespace AskTable.Text

theorem holdsDigit_of_mem_blankRanges : ∀ r ∈ blankRanges, holdsDigit r.1 r.2 = false := by
  decide +kernel

theorem not_isDigit_of_isBlank {c : Char} (h : isBlank c = true) : isDigit c = false := by
  obtain ⟨r, hr, hrange⟩ := List.any_eq_true.mp h
  rw [Bool.and_eq_true, decide_eq_true_eq, decide_eq_true_eq] at hrange
  exact not_isDigit_of_le (holdsDigit_of_mem_blankRanges r hr) hrange.1 hrange.2

end AskTable.Text

namespace AskTable.Statement

open AskTable.Number AskTable.Text

/-! ## The pattern -/

/-- `LIMIT`, blanks and digits, as many of both as possible. -/
def limitPattern : GroupPattern where
  before := .chain (.word limitWord) (.most isBlank)
  group := .most isDigit
  after := .word []

/-- The digits at the front of a text, at least one. -/
def digitsHere? (s : List Char) : Option (List Char) :=
  if s.head?.any isDigit then some (s.takeWhile isDigit) else none

theorem limitHere?_eq (s : List Char) :
    limitHere? s = ((dropKeyword? limitWord s).bind dropBlanks?).bind digitsHere? := by
  rw [limitHere?]
  cases (dropKeyword? limitWord s).bind dropBlanks? with
  | none => rfl
  | some rest =>
    cases rest with
    | nil => rfl
    | cons c rest => cases hc : isDigit c <;> simp [spanDigits, digitsHere?, hc]

theorem limitPattern_here?_eq (s : List Char) : limitPattern.here? s = limitHere? s := by
  have hgroup : (fun (_ : List Char) => takeMost? isDigit fun taken _ => some taken) =
      fun _ => digitsHere? :=
    funext fun _ => funext fun rest => takeMost?_of_taken (fun _ _ => rfl) rest
  have hhere : limitPattern.here? s = (dropKeyword? limitWord s).bind
      (takeMost? isBlank fun _ => takeMost? isDigit fun taken _ => some taken) := rfl
  rw [hhere, hgroup, limitHere?_eq, Option.bind_assoc]
  refine congrArg _ (funext fun rest => ?_)
  rw [takeMost?_of_refused]
  · cases rest with
    | nil => rfl
    | cons c rest => cases hc : isBlank c <;> simp [dropBlanks?, trimStart, hc]
  · intro _ c rest hc
    simp [digitsHere?, not_isDigit_of_isBlank hc]

/-- The digits of the first limit are those that the pattern takes. -/
theorem limitDigits?_eq_search? (s : List Char) : limitDigits? s = limitPattern.search? s := by
  induction s with
  | nil => rfl
  | cons c s ih => rw [limitDigits?, ih, ← limitPattern_here?_eq]; rfl

/-! ## The upper-case form -/

theorem upperChar_of_mem_limitForms {letter : Char} (hletter : letter ∈ limitWord) :
    letter.toLower = letter ∧
      ∀ c ∈ letterForms letter, c = 'İ' ∨ upperChar c = [letter.toUpper] := by
  have hall : (limitWord.all fun letter => letter.toLower == letter &&
      (letterForms letter).all fun c => c == 'İ' || upperChar c == [letter.toUpper]) = true := by
    decide +kernel
  simpa using List.all_eq_true.mp hall letter hletter

/-- The upper-case form of a text with a limit holds the word, unless the dotted capital is one of
its letters: this one is no capital of an `i`. -/
theorem mentions_limit {s digits : List Char} (h : limitPattern.search? s = some digits)
    (hdotted : 'İ' ∉ s) : mentions "LIMIT" (upper s) = true := by
  obtain ⟨i, -, hhere⟩ := firstAt?_eq_some_iff.mp h
  rw [limitPattern_here?_eq, limitHere?_eq] at hhere
  obtain ⟨_, hblanks, -⟩ := Option.bind_eq_some_iff.mp hhere
  obtain ⟨_, hword, -⟩ := Option.bind_eq_some_iff.mp hblanks
  obtain ⟨written, hwritten, hs⟩ := dropKeyword?_eq_some_iff.mp hword
  have hheld : written <:+: s := by
    refine List.IsInfix.trans ?_ (List.drop_suffix i s).isInfix
    rw [hs]
    exact (List.prefix_append _ _).isInfix
  have hupper : upper written = "LIMIT".toList := by
    refine hwritten.upper_eq fun letter hletter c hc hsame => ?_
    obtain ⟨hsmall, hforms⟩ := upperChar_of_mem_limitForms hletter
    refine (hforms c (mem_letterForms hsmall hsame)).resolve_left ?_
    rintro rfl
    exact hdotted (hheld.subset hc)
  rw [mentions_iff, ← hupper]
  exact upper_infix hheld

/-! ## The rows -/

/-- The rows that a text with a limit asks for, when it has no list of columns. -/
theorem execute_of_limit {s : String} {digits : List Char}
    (hstar : mentions "SELECT *" (upper s.toList) = false) (hlist : selectList? s.toList = none)
    (hlimit : limitPattern.search? s.toList = some digits) (table : Table) :
    execute (.text s) table =
      if mentions "LIMIT" (upper s.toList) = true ∧ digits.length ≤ maxDigits then
        table.rows.take (natOf digits)
      else table.rows := by
  have hcolumns : columnsAsked? s.toList = none := by rw [columnsAsked?, hlist]; simp
  have hcount : limitCount s.toList = (countOf digits).map some := by
    rw [limitCount, limitDigits?_eq_search?, hlimit]
  rw [execute, Shape.read, Shape.ofText, hstar, if_neg Bool.false_ne_true, hcolumns, countAsked?,
    hcount, countOf]
  by_cases hword : mentions "LIMIT" (upper s.toList) = true
  · by_cases hmany : digits.length ≤ maxDigits
    · rw [if_pos hword, if_neg (Nat.not_lt.mpr hmany), if_pos ⟨hword, hmany⟩]
      rfl
    · rw [if_pos hword, if_pos (Nat.not_le.mp hmany), if_neg fun h => hmany h.2]
      rfl
  · rw [if_neg hword, if_neg fun h => hword h.1]
    rfl

/-- **A limit** is the first one that the pattern finds, and where no columns are asked for, the
answer is so many of the first rows, if the upper-case form of the statement holds the word and the
digits are not too many. Otherwise it is every row. The word can be missing in the upper-case form
only if it is written with a dotted capital. -/
theorem execute_limit {s : String} {digits : List Char}
    (hstar : mentions "SELECT *" (upper s.toList) = false) (hlist : selectList? s.toList = none)
    (hlimit : limitPattern.search? s.toList = some digits) (table : Table) :
    execute (.text s) table =
        (if mentions "LIMIT" (upper s.toList) = true ∧ digits.length ≤ maxDigits then
          table.rows.take (natOf digits)
        else table.rows) ∧
      ('İ' ∉ s.toList → mentions "LIMIT" (upper s.toList) = true) :=
  ⟨execute_of_limit hstar hlist hlimit table, mentions_limit hlimit⟩

/-- Two rows. -/
def people : Table :=
  ⟨[Row.ofList [(.ofText "name", .text "Ada")], Row.ofList [(.ofText "name", .text "Bob")]]⟩

/-- Letters without dots, a wide blank, and digits of another set with a zero in front. -/
theorem execute_limit_wide :
    execute (.text "lımıt\u3000٠١") people = [Row.ofList [(.ofText "name", .text "Ada")]] := by
  have hlimit : limitPattern.search? "lımıt\u3000٠١".toList = some "٠١".toList := by
    decide +kernel
  obtain ⟨hrows, hword⟩ := execute_limit (by decide +kernel) (by decide +kernel) hlimit people
  rw [hrows, if_pos ⟨hword (by decide), by decide⟩]
  rfl

/-! ## Limits without effect -/

/-- The pattern finds a limit, and yet the answer is not made of so many rows. -/
structure Unheeded (s : String) (digits : List Char) (t : Table) : Prop where
  starless : mentions "SELECT *" (upper s.toList) = false
  listless : selectList? s.toList = none
  limit : limitPattern.search? s.toList = some digits
  differs : execute (.text s) t ≠ t.rows.take (natOf digits)

/-- A limit of one, written with so many zeros in front. -/
def paddedOne (zeros : Nat) : List Char := List.replicate zeros '0' ++ ['1']

def paddedLimit (zeros : Nat) : List Char := "LIMIT ".toList ++ paddedOne zeros

theorem mem_paddedOne {zeros : Nat} {c : Char} (h : c ∈ paddedOne zeros) : c = '0' ∨ c = '1' := by
  rcases List.mem_append.mp h with h | h
  · exact Or.inl (List.eq_of_mem_replicate h)
  · exact Or.inr (List.mem_singleton.mp h)

theorem paddedLimit_subset (zeros : Nat) : paddedLimit zeros ⊆ "LIMIT 01".toList := by
  intro c hc
  rcases List.mem_append.mp hc with hc | hc
  · exact List.mem_append_left ['0', '1'] hc
  · rcases mem_paddedOne hc with rfl | rfl <;> decide

theorem natOf_paddedOne (zeros : Nat) : natOf (paddedOne zeros) = 1 := by
  induction zeros with
  | zero => decide
  | succ zeros ih => exact ih

theorem search?_paddedLimit (zeros : Nat) :
    limitPattern.search? (paddedLimit zeros) = some (paddedOne zeros) := by
  have hdigits : ∀ c ∈ paddedOne zeros, isDigit c = true := by
    intro c hc
    rcases mem_paddedOne hc with rfl | rfl <;> decide
  obtain ⟨c, rest, hcons⟩ : ∃ c rest, paddedOne zeros = c :: rest :=
    List.exists_cons_of_ne_nil (by simp [paddedOne])
  have hc : isDigit c = true := hdigits c (hcons ▸ List.mem_cons_self)
  have hblank : isBlank c = false := by
    rw [Bool.eq_false_iff]
    intro h
    rw [not_isDigit_of_isBlank h] at hc
    cases hc
  have hword : dropKeyword? limitWord (paddedLimit zeros) = some (' ' :: paddedOne zeros) := rfl
  have hblanks : dropBlanks? (' ' :: paddedOne zeros) = some (paddedOne zeros) :=
    congrArg some (hcons ▸ trimStart_cons_of_not hblank rest)
  have hrun : digitsHere? (paddedOne zeros) = some (paddedOne zeros) := by
    rw [digitsHere?, List.takeWhile_eq_self_iff.mpr hdigits, hcons, List.head?_cons,
      Option.any_some, if_pos hc]
  refine firstAt?_of_some ?_
  rw [limitPattern_here?_eq, limitHere?_eq, hword, Option.bind_some, hblanks, Option.bind_some,
    hrun]

theorem unheeded_paddedLimit {zeros : Nat} (h : maxDigits ≤ zeros) :
    Unheeded (String.ofList (paddedLimit zeros)) (paddedOne zeros) people := by
  have hsubset := paddedLimit_subset zeros
  have hstar : mentions "SELECT *" (upper (paddedLimit zeros)) = false := by
    have hstarless : ∀ c ∈ "LIMIT 01".toList, isStarless c = true :=
      List.all_eq_true.mp (by decide)
    rw [Bool.eq_false_iff, ne_eq, mentions_iff]
    intro hheld
    exact star_not_mem_upper (fun c hc => hstarless c (hsubset hc)) (hheld.subset (by decide))
  have hlist : selectList? (paddedLimit zeros) = none := by
    have hletters : ∀ c ∈ "LIMIT 01".toList, (!sameLetter 's' c) = true :=
      List.all_eq_true.mp (by decide)
    have hsearch := search?_append (fun c hc => by simpa using hletters c (hsubset hc)) []
    rw [List.append_nil] at hsearch
    rw [selectList?_eq_search?, hsearch]
    rfl
  have hlimit := search?_paddedLimit zeros
  rw [← String.toList_ofList (l := paddedLimit zeros)] at hstar hlist hlimit
  refine ⟨hstar, hlist, hlimit, ?_⟩
  have hmany : ¬ (paddedOne zeros).length ≤ maxDigits := by
    rw [paddedOne, List.length_append, List.length_replicate, List.length_singleton]
    omega
  rw [execute_of_limit hstar hlist hlimit, if_neg fun hmet => hmany hmet.2, natOf_paddedOne]
  intro hrows
  cases congrArg List.length hrows

/-- A dotted capital is no letter of the word in the upper-case form, and one digit too many makes
no number, though all but the last are zeros. -/
theorem unheeded_dotted_padded :
    Unheeded "LİMİT 1" ['1'] people ∧
      Unheeded (String.ofList (paddedLimit maxDigits)) (paddedOne maxDigits) people := by
  have hstar : mentions "SELECT *" (upper "LİMİT 1".toList) = false := by decide +kernel
  have hlist : selectList? "LİMİT 1".toList = none := by decide +kernel
  have hlimit : limitPattern.search? "LİMİT 1".toList = some ['1'] := by decide +kernel
  have hword : mentions "LIMIT" (upper "LİMİT 1".toList) = false := by decide +kernel
  refine ⟨⟨hstar, hlist, hlimit, ?_⟩, unheeded_paddedLimit le_rfl⟩
  rw [execute_of_limit hstar hlist hlimit, hword, if_neg fun hmet => Bool.false_ne_true hmet.1]
  intro hrows
  cases congrArg List.length hrows

end AskTable.Statement

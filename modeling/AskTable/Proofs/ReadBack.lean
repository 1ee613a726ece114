import AskTable.Proofs.PlainText
import AskTable.Proofs.Plans
import AskTable.Statement.Shape
import Mathlib.Data.List.TakeWhile
import Mathlib.Tactic.Tauto

/-!
# Reading planned statements

A plan is written down as a statement, and the statement is read again when it is executed. The list
of columns is not quoted, and the reader takes the first blank with a `FROM` after it for the end of
the list, whatever follows that `FROM`. So a list of plain names is read back exactly when no name
after the first begins like `FROM`.

* `beginsFrom`, `readBack`: the names that end a list too early, and the names that are read.
* `readBack_eq_or`: either all names are read back, or an empty name is read.
* `selectList?_intercalate`: the names that are read from a list, whatever follows its `FROM`.
* `ofText_statement`: the shape of a planned statement, whatever it sorts by and limits.
-/

namespace AskTable.Statement

open AskTable.Text AskTable.Question

/-! ## Names that are read back -/

/-- Does a name begin like `FROM`, in either case? -/
def beginsFrom (name : String) : Bool := (name.toList.take 4).map Char.toLower == "from".toList

theorem sameLetter_fromWord : ∀ k ∈ fromWord, ∀ c, sameLetter k c = (c.toLower == k) := by
  have hw : fromWord = ['f', 'r', 'o', 'm'] := rfl
  intro k hk c
  simp only [hw, List.mem_cons, List.not_mem_nil, or_false] at hk
  rcases hk with rfl | rfl | rfl | rfl <;> simp [sameLetter, otherForms]

/-- A name ends where a comma or a blank stands. -/
theorem startsFrom_append {x : Char} (hx : x = ',' ∨ x = ' ') (name : String) (s : List Char) :
    startsFrom (name.toList ++ x :: s) = beginsFrom name := by
  have hall : fromWord.all (fun k => !sameLetter k x) = true := by
    rcases hx with rfl | rfl <;> decide
  have hother : ∀ k ∈ fromWord, sameLetter k x = false := by simpa using hall
  rw [startsFrom, dropKeyword?_append_isSome hother]
  exact dropKeyword?_isSome sameLetter_fromWord name.toList

/-- Names after the first, as a list of columns holds them. -/
def listTail (names : List String) : List Char :=
  names.flatMap fun name => ',' :: ' ' :: name.toList

/-- The names up to the first that begins like `FROM`. -/
def untilFrom (names : List String) : List String := names.takeWhile fun name => !beginsFrom name

/-- What is read of names after the first: those before the first that begins like `FROM`, and then,
if there is one, an empty name. -/
def readTail (names : List String) : List String :=
  untilFrom names ++ if names.any beginsFrom then [""] else []

/-- The names that are read from a list of columns. -/
def readBack : List String → List String
  | [] => []
  | name :: names => name :: readTail names

theorem ne_of_isPlainName {name other : String} (h : isPlainName name.toList = true)
    (ho : isPlainName other.toList = false) : name ≠ other := by
  rintro rfl
  simp [ho] at h

theorem star_not_mem_readBack {names : List String}
    (h : ∀ name ∈ names, isPlainName name.toList = true) : "*" ∉ readBack names := by
  cases names with
  | nil => simp [readBack]
  | cons name names =>
    have hstar : ∀ n ∈ name :: names, n ≠ "*" := fun n hn => ne_of_isPlainName (h n hn) (by decide)
    have hmem : ∀ n ∈ untilFrom names, n ≠ "*" :=
      fun n hn => hstar n (List.mem_cons_of_mem _ (List.takeWhile_subset _ hn))
    simp only [readBack, readTail, List.mem_cons, List.mem_append, not_or]
    refine ⟨Ne.symm (hstar name List.mem_cons_self), fun hm => hmem _ hm rfl, ?_⟩
    split <;> simp

/-- All names are read back exactly when none after the first begins like `FROM`. Otherwise an empty
name is read. -/
theorem readBack_eq_or {names : List String} (hne : names ≠ []) :
    (∀ name ∈ names.tail, beginsFrom name = false) ∧ readBack names = names ∨
      ¬ (∀ name ∈ names.tail, beginsFrom name = false) ∧ "" ∈ readBack names := by
  obtain ⟨name, names, rfl⟩ := List.exists_cons_of_ne_nil hne
  rw [List.tail_cons]
  by_cases hall : ∀ n ∈ names, beginsFrom n = false
  · refine Or.inl ⟨hall, ?_⟩
    have huntil : untilFrom names = names := by
      rw [untilFrom, List.takeWhile_eq_self_iff]
      intro n hn
      rw [hall n hn, Bool.not_false]
    have hany : names.any beginsFrom = false := by
      rw [List.any_eq_false]
      intro n hn
      simp [hall n hn]
    simp [readBack, readTail, huntil, hany]
  · refine Or.inr ⟨hall, ?_⟩
    have hany : names.any beginsFrom = true := by
      rw [List.any_eq_true]
      simpa using hall
    simp [readBack, readTail, hany]

/-! ## Reading the list -/

theorem beforeFrom?_append {s : List Char} (h : ∀ c ∈ s, isBlank c = false) (t : List Char) :
    beforeFrom? (s ++ t) = (beforeFrom? t).map (s ++ ·) := by
  induction s with
  | nil => simp
  | cons c s ih =>
    have hc := h c List.mem_cons_self
    rw [List.cons_append, beforeFrom?, hc, ih fun d hd => h d (List.mem_cons_of_mem _ hd)]
    simp [Function.comp_def]

theorem beforeFrom?_blank {c : Char} (h : isBlank c = true) (s : List Char) :
    beforeFrom? (c :: s) = if startsFrom s then some [] else (beforeFrom? s).map (c :: ·) := by
  rw [beforeFrom?, h, Bool.true_and]

theorem no_blank_of_isPlainName {name : String} (h : isPlainName name.toList = true) :
    ∀ c ∈ name.toList, isBlank c = false :=
  fun c hc => isBlank_of_isPlain (isPlain_of_isPlainName h c hc)

theorem comma_not_mem {name : String} (h : isPlainName name.toList = true) :
    ',' ∉ name.toList :=
  fun hm => ne_of_isPlain (isPlain_of_isPlainName h _ hm) (by decide) rfl

/-- What stands before the first `FROM` of a list of names: the names up to the first that begins
like it, and the comma before that one. -/
theorem beforeFrom?_listTail {names : List String}
    (h : ∀ name ∈ names, isPlainName name.toList = true) (s : List Char) :
    beforeFrom? (listTail names ++ " FROM ".toList ++ s) =
      some (listTail (untilFrom names) ++ if names.any beginsFrom then [','] else []) := by
  induction names with
  | nil =>
    have hs : startsFrom ("FROM ".toList ++ s) = true := rfl
    have hfrom : " FROM ".toList ++ s = ' ' :: ("FROM ".toList ++ s) := rfl
    rw [listTail, List.flatMap_nil, List.nil_append, hfrom, beforeFrom?_blank rfl, hs]
    rfl
  | cons name names ih =>
    have hname := h name List.mem_cons_self
    have ih := ih fun n hn => h n (List.mem_cons_of_mem _ hn)
    -- the rest of the text begins with a comma or a blank, where the name ends
    obtain ⟨x, hx, rest, hrest⟩ : ∃ x, (x = ',' ∨ x = ' ') ∧ ∃ rest,
        listTail names ++ " FROM ".toList ++ s = x :: rest := by
      cases names with
      | nil => exact ⟨' ', Or.inr rfl, _, rfl⟩
      | cons n ns => exact ⟨',', Or.inl rfl, _, rfl⟩
    have hsplit : listTail (name :: names) ++ " FROM ".toList ++ s =
        [','] ++ ' ' :: (name.toList ++ x :: rest) := by
      rw [← hrest]
      simp [listTail]
    have hcomma : ∀ c ∈ [','], isBlank c = false := by
      intro c hc
      rw [List.mem_singleton.mp hc]
      rfl
    rw [hsplit, beforeFrom?_append hcomma, beforeFrom?_blank rfl, startsFrom_append hx]
    cases hb : beginsFrom name with
    | true => simp [untilFrom, hb, listTail]
    | false =>
      rw [beforeFrom?_append (no_blank_of_isPlainName hname), ← hrest, ih]
      simp [untilFrom, hb, listTail]

theorem splitOn_listTail {first : List Char} (hfirst : ',' ∉ first) {names : List String}
    (h : ∀ name ∈ names, isPlainName name.toList = true) (last : List Char) (hlast : ',' ∉ last) :
    splitOn ',' (first ++ listTail names) =
      first :: names.map (fun name => ' ' :: name.toList) ∧
    splitOn ',' (first ++ listTail names ++ ',' :: last) =
      first :: names.map (fun name => ' ' :: name.toList) ++ [last] := by
  induction names generalizing first with
  | nil => simp [listTail, splitOn_of_not_mem hfirst, splitOn_append_cons hfirst,
      splitOn_of_not_mem hlast]
  | cons name names ih =>
    have hname : ',' ∉ ' ' :: name.toList := by
      simpa using comma_not_mem (h name List.mem_cons_self)
    have ih := ih hname fun n hn => h n (List.mem_cons_of_mem _ hn)
    have hsplit : first ++ listTail (name :: names) =
        first ++ ',' :: (' ' :: name.toList ++ listTail names) := by
      simp [listTail]
    constructor
    · rw [hsplit, splitOn_append_cons hfirst, ih.1, List.map_cons]
    · rw [hsplit, List.append_assoc, List.cons_append, splitOn_append_cons hfirst, ih.2]
      rfl

theorem trim_piece {name : String} (h : isPlainName name.toList = true) :
    String.ofList (trim name.toList) = name ∧ String.ofList (trim (' ' :: name.toList)) = name := by
  have ht : trim name.toList = name.toList := trim_of_no_blank (no_blank_of_isPlainName h)
  rw [trim_cons_blank rfl, ht]
  simp

/-- The pieces of a list of names, with or without a comma at its end. -/
theorem pieces_listTail {name : String} (hname : isPlainName name.toList = true)
    {names : List String} (h : ∀ n ∈ names, isPlainName n.toList = true) (cut : Bool) :
    pieces (name.toList ++ (listTail names ++ if cut then [','] else [])) =
      name :: names ++ if cut then [""] else [] := by
  have hsplit := splitOn_listTail (comma_not_mem hname) h [] List.not_mem_nil
  have hmap : (names.map fun n => String.ofList (trim (' ' :: n.toList))) = names :=
    (List.map_congr_left fun n hn => (trim_piece (h n hn)).2).trans (List.map_id' names)
  cases cut with
  | false =>
    rw [pieces, if_neg Bool.false_ne_true, List.append_nil, hsplit.1, List.map_cons, List.map_map]
    simpa [Function.comp_def, (trim_piece hname).1] using hmap
  | true =>
    have hnil : String.ofList (trim []) = "" := rfl
    rw [pieces, if_pos rfl, ← List.append_assoc, hsplit.2, List.map_append, List.map_cons,
      List.map_map]
    simpa [Function.comp_def, (trim_piece hname).1, hnil] using hmap

theorem toList_intercalate_cons (name : String) (names : List String) :
    (String.intercalate ", " (name :: names)).toList = name.toList ++ listTail names := by
  rw [String.toList_intercalate, List.map_cons]
  have hsep : ", ".toList = [',', ' '] := rfl
  rw [hsep]
  induction names generalizing name with
  | nil => simp [listTail]
  | cons n names ih =>
    rw [List.map_cons, List.intercalate_cons_cons, ih]
    simp [listTail]

theorem afterSelect?_select (s : List Char) :
    afterSelect? ("SELECT ".toList ++ s) = some (' ' :: s) := rfl

/-- The names that are read from a list of columns, whatever follows its `FROM`. -/
theorem selectList?_intercalate {columns : List String} (hne : columns ≠ [])
    (h : ∀ name ∈ columns, isPlainName name.toList = true) (s : List Char) :
    selectList? ("SELECT ".toList ++ ((String.intercalate ", " columns).toList ++
      " FROM ".toList ++ s)) = some (readBack columns) := by
  obtain ⟨name, names, rfl⟩ := List.exists_cons_of_ne_nil hne
  have hname := h name List.mem_cons_self
  have hnames := fun n hn => h n (List.mem_cons_of_mem _ hn)
  obtain ⟨c, cs, hc⟩ := List.exists_cons_of_ne_nil (ne_nil_of_isPlainName hname)
  have hblank : isBlank c = false := no_blank_of_isPlainName hname c (by simp [hc])
  have hbody : trimStart (' ' :: ((String.intercalate ", " (name :: names)).toList ++
      " FROM ".toList ++ s)) = name.toList ++ (listTail names ++ " FROM ".toList ++ s) := by
    rw [toList_intercalate_cons, hc]
    simp [trimStart, hblank, show isBlank ' ' = true from rfl]
  have hkept : ∀ n ∈ untilFrom names, isPlainName n.toList = true :=
    fun n hn => hnames n (List.takeWhile_subset _ hn)
  simp only [selectList?, afterSelect?_select, hbody,
    beforeFrom?_append (no_blank_of_isPlainName hname), beforeFrom?_listTail hnames,
    Option.map_some, pieces_listTail hname hkept]
  rfl

/-! ## The shape of a planned statement -/

theorem mentions_iff (piece : String) (s : List Char) :
    mentions piece s = true ↔ piece.toList <:+: s :=
  occurs_iff piece.toList s

/-- Words in capitals are mentioned by the upper-case form of every text that holds them. -/
theorem mentions_upper {piece : String} (hp : upper piece.toList = piece.toList) {s : List Char}
    (h : piece.toList <:+: s) : mentions piece (upper s) = true := by
  rw [mentions_iff, ← hp]
  exact upper_infix h

theorem mem_escapeQuotes {c : Char} {name : List Char} (h : c ∈ escapeQuotes name) :
    c = '"' ∨ c ∈ name := by
  induction name with
  | nil => simp [escapeQuotes] at h
  | cons d name ih =>
    rw [escapeQuotes] at h
    split at h
    · simp only [List.mem_cons] at h ⊢
      tauto
    · simp only [List.mem_cons] at h ⊢
      tauto

theorem isStarless_append {s t : List Char} (hs : ∀ c ∈ s, isStarless c = true)
    (ht : ∀ c ∈ t, isStarless c = true) : ∀ c ∈ s ++ t, isStarless c = true := by
  intro c hc
  exact (List.mem_append.mp hc).elim (hs c) (ht c)

theorem isStarless_of_isPlainName {name : String} (h : isPlainName name.toList = true) :
    ∀ c ∈ name.toList, isStarless c = true :=
  fun c hc => isStarless_of_isPlain (isPlain_of_isPlainName h c hc)

theorem isStarless_listTail {names : List String}
    (h : ∀ name ∈ names, isPlainName name.toList = true) :
    ∀ c ∈ listTail names, isStarless c = true := by
  intro c hc
  obtain ⟨name, hn, hc⟩ := List.mem_flatMap.mp hc
  rw [List.mem_cons, List.mem_cons] at hc
  rcases hc with rfl | rfl | hc
  · decide
  · decide
  · exact isStarless_of_isPlainName (h name hn) c hc

theorem isStarless_orderClause {p : Plan}
    (h : ∀ name, p.orderBy = some name → isPlainName name.toList = true) :
    ∀ c ∈ p.orderClause.toList, isStarless c = true := by
  unfold Plan.orderClause
  cases ho : p.orderBy with
  | none => simp
  | some name =>
    have hname := isStarless_of_isPlainName (h name ho)
    have hquoted : ∀ c ∈ quoteIdentifier name.toList, isStarless c = true := by
      intro c hc
      simp only [quoteIdentifier, List.cons_append, List.mem_cons, List.mem_append,
        List.not_mem_nil, or_false] at hc
      rcases hc with rfl | hc | rfl
      · decide
      · rcases mem_escapeQuotes hc with rfl | hc
        · decide
        · exact hname c hc
      · decide
    simp only [String.toList_append, String.toList_ofList]
    refine isStarless_append (isStarless_append (List.all_eq_true.mp (by decide)) hquoted) ?_
    split <;> exact List.all_eq_true.mp (by decide)

theorem isStarless_limitClause (p : Plan) : ∀ c ∈ p.limitClause.toList, isStarless c = true := by
  unfold Plan.limitClause
  split
  · simp
  · rename_i n _
    have hdigits : (natText n).toList = digitsOf n := String.toList_ofList
    rw [String.toList_append, hdigits]
    exact isStarless_append (List.all_eq_true.mp (by decide)) fun c hc =>
      isStarless_of_mem_digitsOf hc

/-- A statement, its list of columns apart. -/
theorem toList_statement (p : Plan) (table : String) :
    (p.statement table).toList = "SELECT ".toList ++ (p.selected.toList ++ " FROM ".toList ++
      (table.toList ++ p.orderClause.toList ++ p.limitClause.toList)) := by
  simp [Plan.statement, List.append_assoc]

theorem isStarless_statement {p : Plan} (hne : p.columns ≠ [])
    (h : ∀ name ∈ p.named, isPlainName name.toList = true) :
    ∀ c ∈ (p.statement localTable).toList, isStarless c = true := by
  have hcolumns : ∀ name ∈ p.columns, isPlainName name.toList = true :=
    fun name hn => h name (List.mem_append_left _ hn)
  have horder : ∀ name, p.orderBy = some name → isPlainName name.toList = true :=
    fun name hn => h name (List.mem_append_right _ (Option.mem_toList.mpr hn))
  obtain ⟨name, names, hc⟩ := List.exists_cons_of_ne_nil hne
  have hselected : p.selected.toList = name.toList ++ listTail names := by
    rw [Plan.selected, hc, List.isEmpty_cons, if_neg Bool.false_ne_true, toList_intercalate_cons]
  rw [toList_statement, hselected]
  rw [hc] at hcolumns
  have hlist := isStarless_append (isStarless_of_isPlainName (hcolumns name List.mem_cons_self))
    (isStarless_listTail fun n hn => hcolumns n (List.mem_cons_of_mem _ hn))
  have hselect : ∀ c ∈ "SELECT ".toList, isStarless c = true := List.all_eq_true.mp (by decide)
  have hfrom : ∀ c ∈ " FROM ".toList, isStarless c = true := List.all_eq_true.mp (by decide)
  have htable : ∀ c ∈ localTable.toList, isStarless c = true := List.all_eq_true.mp (by decide)
  have hclauses := isStarless_append (isStarless_append htable (isStarless_orderClause horder))
    (isStarless_limitClause p)
  exact isStarless_append hselect (isStarless_append (isStarless_append hlist hfrom) hclauses)

/-- A planned statement asks for everything when no column was planned, and otherwise for the
columns that are read back. -/
theorem ofText_statement {p : Plan} (h : ∀ name ∈ p.named, isPlainName name.toList = true) :
    Shape.ofText (p.statement localTable).toList =
      if p.columns = [] then .everything else .columns ((readBack p.columns).map Token.ofText) := by
  by_cases hne : p.columns = []
  · have hstar : mentions "SELECT *" (upper (p.statement localTable).toList) = true := by
      apply mentions_upper (by decide)
      rw [toList_statement, Plan.selected, hne, List.isEmpty_nil, if_pos rfl]
      exact ⟨[], _, rfl⟩
    rw [if_pos hne, Shape.ofText, if_pos hstar]
  · have hstar : mentions "SELECT *" (upper (p.statement localTable).toList) = false := by
      rw [Bool.eq_false_iff, ne_eq, mentions_iff]
      intro hm
      exact star_not_mem_upper (isStarless_statement hne h) (hm.subset (by decide))
    have hselect : mentions "SELECT" (upper (p.statement localTable).toList) = true := by
      apply mentions_upper (by decide)
      rw [toList_statement]
      exact ⟨[], _, rfl⟩
    have hfrom : mentions "FROM" (upper (p.statement localTable).toList) = true := by
      apply mentions_upper (by decide)
      rw [toList_statement]
      have hword : "FROM".toList <:+: " FROM ".toList := ⟨" ".toList, " ".toList, rfl⟩
      exact ((hword.trans (List.suffix_append p.selected.toList _).isInfix).trans
        (List.prefix_append _ _).isInfix).trans (List.suffix_append _ _).isInfix
    have hselected : p.selected = String.intercalate ", " p.columns := by
      rw [Plan.selected, if_neg (by simpa using hne)]
    have hlist := selectList?_intercalate hne
      (fun name hn => h name (List.mem_append_left _ hn))
      (localTable.toList ++ p.orderClause.toList ++ p.limitClause.toList)
    rw [if_neg hne, Shape.ofText, hstar, if_neg Bool.false_ne_true, columnsAsked?, hselect, hfrom,
      Bool.and_self, if_pos rfl, toList_statement, hselected, hlist]
    rfl

end AskTable.Statement

import AskTable.Proofs.Plans
import Mathlib.Control.Monad.Basic

/-!
# Quoted sort columns

The column that a statement sorts by stands in quotes, and a quote in its name is written twice. So
quotes come in pairs between the opening and the closing one, and a single one of them can only be
the end. Nothing in a name, and nothing in front of the clause, can be taken for another clause.

* `readIdentifier?_eq_some_iff`: reading accepts exactly what writing produces, as long as no other
  quote follows.
* `count_escapeQuotes`, `exists_of_escapeQuotes_eq`: the quotes of an escaped text come in pairs,
  and at any other character it is cut into two escaped texts.
* `sortTail`: what may follow the column, a direction and a limit; `sortTail_inj`: it tells both.
* `SortsBy`: a text ends in a sort clause; `SortsBy.unique`: in one only.
* `orders_read_back`: the sort column of a planned statement is read back.
-/

namespace AskTable.Question

open AskTable.Text

/-! ## Reading what was written -/

theorem escapeQuotes_cons_of_ne {c : Char} (hc : c ≠ '"') (name : List Char) :
    escapeQuotes (c :: name) = c :: escapeQuotes name := by
  rw [escapeQuotes, if_neg hc]

/-- Quotes are read in pairs, up to the first that stands alone. -/
theorem eq_of_readQuoted {s name rest : List Char} (h : readQuoted s = some (name, rest)) :
    s = escapeQuotes name ++ '"' :: rest ∧ rest.head? ≠ some '"' := by
  fun_induction readQuoted s generalizing name with
  | case1 => cases h
  | case2 s ih =>
    obtain ⟨⟨front, back⟩, hs, heq⟩ := Option.map_eq_some_iff.mp h
    cases heq
    obtain ⟨hs, hrest⟩ := ih hs
    exact ⟨by rw [hs]; rfl, hrest⟩
  | case3 s hnext =>
    cases h
    refine ⟨rfl, fun hhead => ?_⟩
    obtain ⟨t, rfl⟩ := List.head?_eq_some_iff.mp hhead
    exact hnext t rfl rfl
  | case4 c s hnext hc ih =>
    obtain ⟨⟨front, back⟩, hs, heq⟩ := Option.map_eq_some_iff.mp h
    cases heq
    obtain ⟨hs, hrest⟩ := ih hs
    exact ⟨by rw [hs, escapeQuotes_cons_of_ne hc]; rfl, hrest⟩

/-- Reading accepts exactly what writing produces, as long as no other quote follows. -/
theorem readIdentifier?_eq_some_iff {s name rest : List Char} :
    readIdentifier? s = some (name, rest) ↔
      s = quoteIdentifier name ++ rest ∧ rest.head? ≠ some '"' := by
  constructor
  · intro h
    unfold readIdentifier? at h
    split at h
    · obtain ⟨hs, hrest⟩ := eq_of_readQuoted h
      exact ⟨by rw [hs, quoteIdentifier]; simp, hrest⟩
    · cases h
  · rintro ⟨rfl, hrest⟩
    exact readIdentifier?_quoteIdentifier name rest hrest

theorem escapeQuotes_inj {name other : List Char} (h : escapeQuotes name = escapeQuotes other) :
    name = other := by
  have hname := readQuoted_escapeQuotes name [] (by simp)
  rw [h, readQuoted_escapeQuotes other [] (by simp)] at hname
  cases hname
  rfl

/-! ## Pairs of quotes -/

theorem count_escapeQuotes (name : List Char) :
    (escapeQuotes name).count '"' = 2 * name.count '"' := by
  induction name with
  | nil => rfl
  | cons c name ih =>
    by_cases hc : c = '"'
    · subst hc
      rw [escapeQuotes, if_pos rfl, List.count_cons_self, List.count_cons_self,
        List.count_cons_self, ih]
      omega
    · rw [escapeQuotes_cons_of_ne hc, List.count_cons_of_ne hc, List.count_cons_of_ne hc, ih]

/-- A character that is no quote cuts an escaped text into two escaped texts. -/
theorem exists_of_escapeQuotes_eq {name front back : List Char} {c : Char} (hc : c ≠ '"')
    (h : escapeQuotes name = front ++ c :: back) :
    ∃ first second, front = escapeQuotes first ∧ back = escapeQuotes second := by
  induction name generalizing front with
  | nil => simp [escapeQuotes] at h
  | cons d name ih =>
    by_cases hd : d = '"'
    · -- a pair of quotes is on one side of the cut
      subst hd
      rw [escapeQuotes, if_pos rfl] at h
      cases front with
      | nil => exact absurd (List.cons.inj h).1.symm hc
      | cons x front =>
        cases front with
        | nil => exact absurd (List.cons.inj (List.cons.inj h).2).1.symm hc
        | cons y front =>
          simp only [List.cons_append, List.cons.injEq] at h
          obtain ⟨rfl, rfl, h⟩ := h
          obtain ⟨first, second, rfl, hback⟩ := ih h
          exact ⟨'"' :: first, second, rfl, hback⟩
    · rw [escapeQuotes_cons_of_ne hd] at h
      cases front with
      | nil => exact ⟨[], name, rfl, (List.cons.inj h).2.symm⟩
      | cons x front =>
        simp only [List.cons_append, List.cons.injEq] at h
        obtain ⟨rfl, h⟩ := h
        obtain ⟨first, second, rfl, hback⟩ := ih h
        exact ⟨d :: first, second, (escapeQuotes_cons_of_ne hd first).symm, hback⟩

/-- Inside a name, no single quote stands behind another character. -/
theorem escapeQuotes_ne (name other front : List Char) {c : Char} (hc : c ≠ '"') :
    escapeQuotes name ≠ front ++ c :: '"' :: escapeQuotes other := by
  intro h
  obtain ⟨-, second, -, hback⟩ := exists_of_escapeQuotes_eq hc h
  have hcount := congrArg (List.count '"') hback
  rw [List.count_cons_self, count_escapeQuotes, count_escapeQuotes] at hcount
  omega

/-! ## Sort clauses -/

/-- What may follow the column: a direction and a limit. -/
def sortTail (descending : Bool) (limit : Option Nat) : List Char :=
  (if descending then " DESC".toList else []) ++
    match limit with
    | none => []
    | some n => " LIMIT ".toList ++ digitsOf n

/-- A text ends in a sort clause. -/
def SortsBy (s name : List Char) (descending : Bool) (limit : Option Nat) : Prop :=
  ∃ front clause, s = front ++ (" ORDER BY ".toList ++ clause) ∧
    readIdentifier? clause = some (name, sortTail descending limit)

theorem digitsOf_inj {n m : Nat} : digitsOf n = digitsOf m ↔ n = m := by
  refine ⟨fun h => ?_, congrArg digitsOf⟩
  have hread := congrArg (fun digits => Nat.ofDigitChars 10 digits 0) h
  simpa only [digitsOf, Nat.ofDigitChars_toDigits (by omega : 1 < 10) (Nat.le_refl 10)] using hread

/-- What follows the column tells the direction and the limit. -/
theorem sortTail_inj {descending descending' : Bool} {limit limit' : Option Nat}
    (h : sortTail descending limit = sortTail descending' limit') :
    descending = descending' ∧ limit = limit' := by
  cases descending <;> cases descending' <;> cases limit <;> cases limit' <;>
    simp_all [sortTail, digitsOf_inj]

theorem quote_not_mem_sortTail (descending : Bool) (limit : Option Nat) :
    '"' ∉ sortTail descending limit := by
  have hdigits : ∀ n, '"' ∉ digitsOf n := by
    intro n hn
    have hdigit : ('"').isDigit = true := Nat.isDigit_of_mem_toDigits (by omega) (by omega) hn
    cases hdigit
  cases descending <;> cases limit <;> simp [sortTail, hdigits]

theorem head?_sortTail (descending : Bool) (limit : Option Nat) :
    (sortTail descending limit).head? ≠ some '"' :=
  fun h => quote_not_mem_sortTail descending limit (List.mem_of_mem_head? h)

theorem sortsBy_iff {s name : List Char} {descending : Bool} {limit : Option Nat} :
    SortsBy s name descending limit ↔ ∃ front,
      s = (front ++ (" ORDER BY ".toList ++ '"' :: escapeQuotes name)) ++
        '"' :: sortTail descending limit := by
  simp [SortsBy, readIdentifier?_eq_some_iff, head?_sortTail, quoteIdentifier]

/-- The last quote of a text is at one place only. -/
theorem append_quote_inj {s t tail tail' : List Char} (htail : '"' ∉ tail) (htail' : '"' ∉ tail')
    (h : s ++ '"' :: tail = t ++ '"' :: tail') : s = t ∧ tail = tail' := by
  rcases List.append_eq_append_iff.mp h with ⟨more, rfl, hmore⟩ | ⟨more, rfl, hmore⟩
  · cases more with
    | nil => simpa using hmore
    | cons c more => exact absurd ((List.cons.inj hmore).2 ▸ by simp) htail
  · cases more with
    | nil => simpa using hmore.symm
    | cons c more => exact absurd ((List.cons.inj hmore).2 ▸ by simp) htail'

/-- No name holds the beginning of another clause that ends where its own does: the quote that would
open the other name would stand alone in the first one. -/
theorem eq_nil_of_clause {name other front : List Char}
    (h : " ORDER BY ".toList ++ '"' :: escapeQuotes name =
      front ++ (" ORDER BY ".toList ++ '"' :: escapeQuotes other)) : front = [] := by
  have hlast : " ORDER BY ".toList = " ORDER BY".toList ++ [' '] := rfl
  have hcut : " ORDER BY ".toList ++ '"' :: escapeQuotes name =
      (front ++ " ORDER BY".toList) ++ ' ' :: '"' :: escapeQuotes other := by
    rw [h, hlast]
    simp
  rcases List.append_eq_append_iff.mp hcut with ⟨more, -, hmore⟩ | ⟨more, hfront, hmore⟩
  · cases more with
    | nil => cases hmore
    | cons c more =>
      exact absurd (List.cons.inj hmore).2 (escapeQuotes_ne name other more (by decide))
  · cases more with
    | nil => cases hmore
    | cons c more =>
      have hlength := congrArg List.length hfront
      have hten : " ORDER BY ".toList.length = 10 := rfl
      have hnine : " ORDER BY".toList.length = 9 := rfl
      rw [List.length_append, List.length_append, List.length_cons, hten, hnine] at hlength
      exact List.eq_nil_of_length_eq_zero (by omega)

/-- A text ends in one sort clause at most, whatever stands in front of it and in the name. -/
theorem SortsBy.unique {s name name' : List Char} {descending descending' : Bool}
    {limit limit' : Option Nat} (h : SortsBy s name descending limit)
    (h' : SortsBy s name' descending' limit') :
    name' = name ∧ descending' = descending ∧ limit' = limit := by
  obtain ⟨front, hs⟩ := sortsBy_iff.mp h
  obtain ⟨front', hs'⟩ := sortsBy_iff.mp h'
  obtain ⟨hclause, htail⟩ := append_quote_inj (quote_not_mem_sortTail _ _)
    (quote_not_mem_sortTail _ _) (hs'.symm.trans hs)
  obtain ⟨hdescending, hlimit⟩ := sortTail_inj htail
  refine ⟨?_, hdescending, hlimit⟩
  have hname : ∀ {n m : List Char}, " ORDER BY ".toList ++ '"' :: escapeQuotes n =
      " ORDER BY ".toList ++ '"' :: escapeQuotes m → n = m :=
    fun h => escapeQuotes_inj (List.cons.inj (List.append_cancel_left h)).2
  rcases List.append_eq_append_iff.mp hclause with ⟨more, -, hmore⟩ | ⟨more, -, hmore⟩
  · obtain rfl := eq_nil_of_clause hmore
    exact hname hmore
  · obtain rfl := eq_nil_of_clause hmore
    exact (hname hmore).symm

/-! ## Planned statements -/

/-- A plan without its order and its limit. -/
def Plan.unsorted (p : Plan) : Plan := { p with orderBy := none, limit := none }

/-- The clause at the end of a plan's statement. -/
def Plan.clause (p : Plan) (column : String) : List Char :=
  quoteIdentifier column.toList ++ sortTail p.descending p.limit

theorem toList_statement_sorted {p : Plan} {column : String} (h : p.orderBy = some column)
    (table : String) : (p.statement table).toList =
      (p.unsorted.statement table).toList ++ (" ORDER BY ".toList ++ p.clause column) := by
  obtain ⟨columns, orderBy, descending, limit⟩ := p
  cases h
  cases descending <;> cases limit <;>
    simp [Plan.statement, Plan.unsorted, Plan.clause, Plan.orderClause, Plan.limitClause, sortTail,
      Plan.selected, natText]

theorem readIdentifier?_clause (p : Plan) (column : String) :
    readIdentifier? (p.clause column) = some (column.toList, sortTail p.descending p.limit) :=
  readIdentifier?_quoteIdentifier _ _ (head?_sortTail _ _)

/-- **The sort column is read back.** A quoted name is read exactly where it was written, up to
where no other quote follows. A plan that sorts has a statement that goes on, after the one without
an order, with the quoted column, and behind it are the direction and the limit alone. This is the
only sort clause that the statement ends in, whatever quotes and words its names hold. Every planned
statement is that of a plan. -/
theorem orders_read_back :
    (∀ s name rest : List Char, readIdentifier? s = some (name, rest) ↔
      s = quoteIdentifier name ++ rest ∧ rest.head? ≠ some '"') ∧
    (∀ (p : Plan) (table column : String), p.orderBy = some column →
      (∃ clause, (p.statement table).toList =
          (p.unsorted.statement table).toList ++ (" ORDER BY ".toList ++ clause) ∧
        readIdentifier? clause = some (column.toList, sortTail p.descending p.limit)) ∧
      ∀ name descending limit, SortsBy (p.statement table).toList name descending limit ↔
        name = column.toList ∧ descending = p.descending ∧ limit = p.limit) ∧
    ∀ (q : Cell) (schema : List Descriptor) (statement : String),
      planStatement q schema = .ok statement → ∃ question p, q = .text question ∧
        Plan.ofQuestion question (schema.map (·.column)) = .ok p ∧
        statement = p.statement (schemaTable schema) := by
  refine ⟨fun s name rest => readIdentifier?_eq_some_iff, fun p table column h => ?_,
    fun q schema statement => planStatement_eq_ok.mp⟩
  have hstatement := toList_statement_sorted h table
  have hsorts : SortsBy (p.statement table).toList column.toList p.descending p.limit :=
    ⟨_, _, hstatement, readIdentifier?_clause p column⟩
  refine ⟨⟨_, hstatement, readIdentifier?_clause p column⟩, fun name descending limit =>
    ⟨hsorts.unique, ?_⟩⟩
  rintro ⟨rfl, rfl, rfl⟩
  exact hsorts

/-- A column, and one whose name looks like a clause that sorts by another. -/
def lookalikes : List Descriptor :=
  ["a", "a ORDER BY \"b\" x"].map fun name => ⟨.text localTable, .text name, .text "VARCHAR", true⟩

/-- Neither a clause in the name of a column nor quotes in the name to sort by lead astray. -/
theorem orders_read_back_lookalikes :
    planStatement (.text "top 3 a order by \"b\" x sorted by a desc") lookalikes =
        .ok "SELECT a, a ORDER BY \"b\" x FROM UPLOADED_DATA ORDER BY \"a\" DESC LIMIT 3" ∧
      (∀ name descending limit,
        SortsBy "SELECT a, a ORDER BY \"b\" x FROM UPLOADED_DATA ORDER BY \"a\" DESC LIMIT 3".toList
          name descending limit ↔ name = "a".toList ∧ descending = true ∧ limit = some 3) ∧
      ∀ name descending limit,
        SortsBy "SELECT * FROM T ORDER BY \"\"\" ORDER BY \"\"a\"".toList name descending limit ↔
          name = "\" ORDER BY \"a".toList ∧ descending = false ∧ limit = none := by
  have hstatement : planStatement (.text "top 3 a order by \"b\" x sorted by a desc") lookalikes =
      .ok "SELECT a, a ORDER BY \"b\" x FROM UPLOADED_DATA ORDER BY \"a\" DESC LIMIT 3" := by
    decide +kernel
  have hplan : Plan.ofQuestion "top 3 a order by \"b\" x sorted by a desc"
      (lookalikes.map (·.column)) =
        .ok ⟨["a", "a ORDER BY \"b\" x"], some "a", true, some 3⟩ := by decide +kernel
  obtain ⟨-, hplans, hplanned⟩ := orders_read_back
  obtain ⟨question, p, hq, hp, heq⟩ := hplanned _ _ _ hstatement
  cases hq
  cases Except.ok.inj (hp.symm.trans hplan)
  refine ⟨hstatement, ?_, ?_⟩
  · rw [heq]
    exact (hplans _ _ "a" rfl).2
  · exact (hplans ⟨[], some "\" ORDER BY \"a", false, none⟩ "T" "\" ORDER BY \"a" rfl).2

end AskTable.Question

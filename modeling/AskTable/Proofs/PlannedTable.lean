import AskTable.Proofs.WholeWords
import Mathlib.Control.Monad.Basic

/-!
# The table of a planned statement

A statement is planned over the columns of a whole schema, but it reads one table, that of the first
descriptor. Nothing tells the columns of other tables apart.

* `PicksOut`: the names that a question picks out of a schema; `mem_named_iff`: the plan names
  exactly these.
* `Lists`: a schema lists a column for a table.
* `planStatement_lists_iff`: the columns of a planned statement belong to its table exactly when the
  question picks out no name that is listed for other tables alone.
* `named_lists_iff`: over all questions, when the first table has all columns.
-/

namespace AskTable.Question

/-- A question picks a name out by mentioning it, unless it asks for everything, or by asking for
rows that are sorted by it. -/
def PicksOut (question : List Char) (names : List Cell) (name : String) : Prop :=
  asksForAll question = false ∧ .text name ∈ names ∧ isMentioned question name = true ∨
    ∃ phrase d texts, sortPhrase? question = some (phrase, d) ∧ names = texts.map .text ∧
      sortColumn? texts phrase = some name

/-- A plan names exactly the columns that the question picks out. -/
theorem mem_named_iff {question : String} {names : List Cell} {p : Plan}
    (h : Plan.ofQuestion question names = .ok p) (name : String) :
    name ∈ p.named ↔ PicksOut (normalized question) names name := by
  obtain ⟨sort, -, hs, hc, ho, -⟩ := ofQuestion_eq_ok h
  have hcolumns : name ∈ p.columns ↔ asksForAll (normalized question) = false ∧
      .text name ∈ names ∧ isMentioned (normalized question) name = true := by
    rcases columnsOf_eq_ok hc with ⟨hall, hnil⟩ | ⟨hall, texts, rfl, hm⟩
    · simp [hnil, hall]
    · simp [hm, hall, mentioned]
  have horder : name ∈ p.orderBy.toList ↔ ∃ phrase d texts,
      sortPhrase? (normalized question) = some (phrase, d) ∧ names = texts.map .text ∧
        sortColumn? texts phrase = some name := by
    rw [Option.mem_toList, ho, Option.map_eq_some_iff]
    constructor
    · rintro ⟨⟨column, d⟩, rfl, rfl⟩
      obtain ⟨phrase, texts, hp, hn, hcol⟩ := sortOf_eq_ok hs
      exact ⟨phrase, d, texts, hp, hn, hcol⟩
    · rintro ⟨phrase, d, texts, hp, hn, hcol⟩
      rw [sortOf, hp] at hs
      obtain ⟨others, hm, hs⟩ := bind_eq_ok.mp hs
      have hothers : texts.map Cell.text = others.map .text := hn ▸ mapM_nameText.mp hm
      rw [List.map_inj_right fun a b hab => Cell.text.inj hab] at hothers
      rw [← hothers, hcol] at hs
      cases hs
      exact ⟨_, rfl, rfl⟩
  rw [Plan.named, List.mem_append, hcolumns, horder, PicksOut]

/-- A schema lists a column for a table. -/
def Lists (schema : List Descriptor) (table column : String) : Prop :=
  ∃ d ∈ schema, d.table.plainText = table ∧ d.column = .text column

/-- **The table of a planned statement** is that of the first descriptor, and its columns are listed
in the schema. They are listed for this very table exactly when every name that the question picks
out is. -/
theorem planStatement_lists_iff {first : Descriptor} {others : List Descriptor} {q : Cell}
    {statement : String} (h : planStatement q (first :: others) = .ok statement) :
    ∃ question p, q = .text question ∧
      Plan.ofQuestion question ((first :: others).map (·.column)) = .ok p ∧
      statement = p.statement first.table.plainText ∧
      (∀ name ∈ p.named, ∃ table, Lists (first :: others) table name) ∧
      ((∀ name ∈ p.named, Lists (first :: others) first.table.plainText name) ↔
        ∀ d ∈ others, ∀ name, d.column = .text name →
          PicksOut (normalized question) ((first :: others).map (·.column)) name →
          Lists (first :: others) first.table.plainText name) := by
  obtain ⟨question, p, hq, hp, hs⟩ := planStatement_eq_ok.mp h
  have hlisted : ∀ name ∈ p.named, ∃ d ∈ first :: others, d.column = .text name := by
    intro name hn
    obtain ⟨d, hd, hcol⟩ := List.mem_map.mp (mem_names_of_mem_named hp hn)
    exact ⟨d, hd, hcol⟩
  refine ⟨question, p, hq, hp, hs, ?_, ?_, ?_⟩
  · intro name hn
    obtain ⟨d, hd, hcol⟩ := hlisted name hn
    exact ⟨d.table.plainText, d, hd, rfl, hcol⟩
  · intro hall d _ name _ hpick
    exact hall name ((mem_named_iff hp name).mpr hpick)
  · intro hall name hn
    obtain ⟨d, hd, hcol⟩ := hlisted name hn
    rcases List.mem_cons.mp hd with rfl | hd
    · exact ⟨d, List.mem_cons_self, rfl, hcol⟩
    · exact hall d hd name hcol ((mem_named_iff hp name).mp hn)

/-- The names that a question may pick out of a schema are all of its names. So the columns of
every plan belong to the table of the first descriptor exactly when this table has all of them. -/
theorem named_lists_iff {first : Descriptor} {others : List Descriptor} {texts : List String}
    (hcolumns : (first :: others).map (·.column) = texts.map .text)
    (hnames : ∀ name ∈ texts, IsColumnName name) :
    (∀ question p, Plan.ofQuestion question ((first :: others).map (·.column)) = .ok p →
      ∀ name ∈ p.named, Lists (first :: others) first.table.plainText name) ↔
    ∀ name ∈ texts, Lists (first :: others) first.table.plainText name := by
  rw [hcolumns]
  constructor
  · intro hall name hn
    obtain ⟨hplan, hmentioned⟩ := ofQuestion_name (hnames name hn) texts
    refine hall name _ hplan name (List.mem_append_left _ ?_)
    exact List.mem_filter.mpr ⟨hn, hmentioned⟩
  · intro hall question p hp name hn
    have hmem := mem_names_of_mem_named hp hn
    exact hall name (by simpa using hmem)

/-! ## Two schemas -/

/-- The column of a table in the warehouse. -/
def columnOf (table column : String) : Descriptor :=
  ⟨.text table, .text column, .text "TEXT", true⟩

/-- Orders and customers, both with numbers. -/
def orders : List Descriptor :=
  [columnOf "ORDERS" "ID", columnOf "ORDERS" "TOTAL", columnOf "CUSTOMERS" "ID"]

/-- A name that several tables have is no trouble. -/
theorem planStatement_orders :
    planStatement (.text "id and total, sorted by total desc") orders =
        .ok "SELECT ID, TOTAL, ID FROM ORDERS ORDER BY \"TOTAL\" DESC" ∧
      ∀ name ∈ ["ID", "TOTAL", "ID", "TOTAL"], Lists orders "ORDERS" name := by
  have hstatement : planStatement (.text "id and total, sorted by total desc") orders =
      .ok "SELECT ID, TOTAL, ID FROM ORDERS ORDER BY \"TOTAL\" DESC" := by decide +kernel
  have hplan : Plan.ofQuestion "id and total, sorted by total desc" (orders.map (·.column)) =
      .ok ⟨["ID", "TOTAL", "ID"], some "TOTAL", true, none⟩ := by decide +kernel
  obtain ⟨question, p, hq, hp, -, -, hiff⟩ := planStatement_lists_iff hstatement
  cases hq
  cases Except.ok.inj (hp.symm.trans hplan)
  refine ⟨hstatement, hiff.mpr fun d hd name hcol _ => ?_⟩
  simp only [List.mem_cons, List.not_mem_nil, or_false] at hd
  rcases hd with rfl | rfl
  · exact ⟨columnOf "ORDERS" "TOTAL", List.mem_cons_of_mem _ List.mem_cons_self, rfl, hcol⟩
  · exact ⟨columnOf "ORDERS" "ID", List.mem_cons_self, rfl, hcol⟩

/-- Orders, and customers with names. -/
def customers : List Descriptor := [columnOf "ORDERS" "ID", columnOf "CUSTOMERS" "NAME"]

/-- The name of a customer is asked of the orders. -/
theorem planStatement_customers :
    planStatement (.text "show name") customers = .ok "SELECT NAME FROM ORDERS" ∧
      Plan.ofQuestion "show name" (customers.map (·.column)) = .ok ⟨["NAME"], none, false, none⟩ ∧
      ¬ Lists customers "ORDERS" "NAME" ∧ Lists customers "CUSTOMERS" "NAME" := by
  refine ⟨by decide +kernel, by decide +kernel, ?_, ?_⟩
  · rintro ⟨d, hd, htable, hcol⟩
    simp only [customers, List.mem_cons, List.not_mem_nil, or_false] at hd
    rcases hd with rfl | rfl
    · exact absurd (Cell.text.inj hcol) (by decide)
    · exact absurd htable (by decide)
  · exact ⟨columnOf "CUSTOMERS" "NAME", by simp [customers], rfl, rfl⟩

end AskTable.Question

import AskTable.Proofs.ReadBack
import AskTable.Proofs.Rows
import Mathlib.Data.List.Nodup

/-!
# Answers to planned statements

* `shown`: what the answer to a planned statement should show of a row.
* `execute_planStatement_iff`: it shows this of every row, in table order, exactly when no planned
  column after the first begins like `FROM`.
-/

namespace AskTable.Statement

open AskTable.Text AskTable.Question

/-- The columns of a table whose names are all texts, with what is known of the names. -/
theorem exists_texts {t : Table}
    (h : ∀ l ∈ t.columns, ∃ name, isPlainName name.toList = true ∧ l = .ofText name) :
    ∃ texts : List String, t.columns = texts.map .ofText ∧ texts.Nodup ∧
      ∀ name ∈ texts, isPlainName name.toList = true := by
  have hnodup : (t.columns.map Label.key).Nodup := by
    unfold Table.columns firstColumns
    cases t.rows.head? with
    | none => simp
    | some r => simpa [Row.labels, Entries.keys, Function.comp_def] using r.nodup
  have hex : ∃ texts : List String, t.columns = texts.map .ofText ∧
      ∀ name ∈ texts, isPlainName name.toList = true := by
    generalize t.columns = labels at h
    induction labels with
    | nil => exact ⟨[], rfl, by simp⟩
    | cons l labels ih =>
      obtain ⟨name, hname, hl⟩ := h l List.mem_cons_self
      obtain ⟨texts, ht, hplain⟩ := ih fun m hm => h m (List.mem_cons_of_mem _ hm)
      exact ⟨name :: texts, by rw [hl, ht, List.map_cons], by simpa using ⟨hname, hplain⟩⟩
  obtain ⟨texts, ht, hplain⟩ := hex
  rw [ht, List.map_map] at hnodup
  exact ⟨texts, ht, hnodup.of_map, hplain⟩

/-- What an answer shows of a row by a plan: the planned columns, in this order and each with the
row's own cell, or else the whole row. -/
def shown (p : Plan) (r : Row) : List (Label × Cell) :=
  if p.columns = [] then r.entries
  else p.columns.map fun name => (.ofText name, r.get (.ofText name))

theorem nodup_keys_ofText {names : List String} (h : names.Nodup) :
    ((names.map Label.ofText).map Label.key).Nodup := by
  rw [List.map_map]
  exact h.map fun a b hab => by simpa [Label.ofText] using hab

theorem expand_ofText {names : List String} (h : "*" ∉ names) (r : Row) :
    expand (names.map Token.ofText) r = names.map Label.ofText := by
  induction names with
  | nil => rfl
  | cons name names ih =>
    simp only [List.mem_cons, not_or] at h
    have ht : Token.ofText name = .column (.ofText name) := by
      rw [Token.ofText, if_neg (by simpa using Ne.symm h.1)]
    simpa [expand, ht, Token.labels] using ih h.2

/-- The answer to a planned statement: the whole rows when no column was planned, and otherwise the
columns that are read back. -/
theorem execute_statement {p : Plan} (h : ∀ name ∈ p.named, isPlainName name.toList = true)
    (t : Table) :
    (execute (.text (p.statement localTable)) t).map Row.entries =
      t.rows.map fun r => if p.columns = [] then r.entries
        else (r.select ((readBack p.columns).map Label.ofText)).entries := by
  have hcolumns : ∀ name ∈ p.columns, isPlainName name.toList = true :=
    fun name hn => h name (List.mem_append_left _ hn)
  rw [execute, Shape.read, ofText_statement h]
  by_cases hne : p.columns = []
  · simp [hne, Shape.apply]
  · simp [hne, Shape.apply, project, expand_ofText (star_not_mem_readBack hcolumns)]

theorem schemaTable_describe (t : Table) : schemaTable t.describe = localTable := by
  unfold schemaTable Table.describe
  cases t.columns <;> rfl

/-- **Planner and reader agree but for one thing.** For a table with plainly named columns and every
question with a planned statement, the answer to it shows the planned columns of every row, in table
order, exactly when no planned column after the first begins like `FROM`. -/
theorem execute_planStatement_iff {t : Table} (hrows : t.rows ≠ [])
    (hnames : ∀ l ∈ t.columns, ∃ name, isPlainName name.toList = true ∧ l = .ofText name)
    {q : Cell} {statement : String} (h : planStatement q t.describe = .ok statement) :
    ∃ question p, q = .text question ∧
      Plan.ofQuestion question (t.columns.map (·.cell)) = .ok p ∧
      ((execute (.text statement) t).map Row.entries = t.rows.map (shown p) ↔
        ∀ name ∈ p.columns.tail, beginsFrom name = false) := by
  obtain ⟨question, p, hq, hp, rfl⟩ := planStatement_eq_ok.mp h
  rw [columns_describe] at hp
  refine ⟨question, p, hq, hp, ?_⟩
  obtain ⟨texts, ht, hnodup, hplain⟩ := exists_texts hnames
  have hcells : t.columns.map (·.cell) = texts.map .text := by
    rw [ht, List.map_map]
    rfl
  rw [hcells] at hp
  have hnamed : ∀ name ∈ p.named, isPlainName name.toList = true := fun name hn =>
    hplain name (by simpa using mem_names_of_mem_named hp hn)
  rw [schemaTable_describe, execute_statement hnamed]
  by_cases hne : p.columns = []
  · simp [hne, shown]
  · rcases readBack_eq_or hne with ⟨hall, hback⟩ | ⟨hall, hempty⟩
    · refine iff_of_true (List.map_congr_left fun r _ => ?_) hall
      rw [if_neg hne, hback, Row.entries_select r (nodup_keys_ofText (columns_nodup hp hnodup)),
        shown, if_neg hne, List.map_map]
      rfl
    · refine iff_of_false (fun heq => ?_) hall
      obtain ⟨r, rows, hr⟩ := List.exists_cons_of_ne_nil hrows
      rw [hr, List.map_cons, List.map_cons, List.cons.injEq, if_neg hne] at heq
      -- the answer has a column with an empty name, and no planned column has one
      have hkey := Row.mem_keys_select (r := r) (List.mem_map_of_mem (f := Label.ofText) hempty)
      rw [heq.1, shown, if_neg hne] at hkey
      obtain ⟨name, hn, hk⟩ : ∃ name ∈ p.columns, name = "" := by
        simpa [Entries.keys, Label.ofText] using hkey
      exact ne_of_isPlainName (hnamed name (List.mem_append_left _ hn)) (by decide) hk

/-! ## Two tables -/

theorem plain_columns {t : Table} (texts : List String) (ht : t.columns = texts.map .ofText)
    (h : ∀ name ∈ texts, isPlainName name.toList = true) :
    ∀ l ∈ t.columns, ∃ name, isPlainName name.toList = true ∧ l = .ofText name := by
  rw [ht]
  intro l hl
  obtain ⟨name, hn, rfl⟩ := List.mem_map.mp hl
  exact ⟨name, h name hn, rfl⟩

/-- A table whose first column begins like `FROM`. -/
def arrivals : Table := ⟨[
  ⟨[(.ofText "from_city", .text "Rome"), (.ofText "name", .text "Ada")], by decide⟩,
  ⟨[(.ofText "from_city", .text "Oslo"), (.ofText "name", .text "Bo")], by decide⟩]⟩

/-- The first column may begin like `FROM`. -/
theorem execute_planStatement_arrivals :
    arrivals.rows ≠ [] ∧
      (∀ l ∈ arrivals.columns, ∃ name, isPlainName name.toList = true ∧ l = .ofText name) ∧
      planStatement (.text "top 1 by name and from_city sorted by name desc") arrivals.describe =
        .ok "SELECT from_city, name FROM UPLOADED_DATA ORDER BY \"name\" DESC LIMIT 1" ∧
      (execute (.text "SELECT from_city, name FROM UPLOADED_DATA ORDER BY \"name\" DESC LIMIT 1")
        arrivals).map Row.entries =
        arrivals.rows.map (shown ⟨["from_city", "name"], some "name", true, some 1⟩) := by
  have hrows : arrivals.rows ≠ [] := List.cons_ne_nil _ _
  have hnames : ∀ l ∈ arrivals.columns, ∃ name, isPlainName name.toList = true ∧ l = .ofText name :=
    plain_columns ["from_city", "name"] rfl (by decide)
  have hstatement : planStatement (.text "top 1 by name and from_city sorted by name desc")
      arrivals.describe =
        .ok "SELECT from_city, name FROM UPLOADED_DATA ORDER BY \"name\" DESC LIMIT 1" := by
    decide +kernel
  have hplan : Plan.ofQuestion "top 1 by name and from_city sorted by name desc"
      (arrivals.columns.map (·.cell)) =
        .ok ⟨["from_city", "name"], some "name", true, some 1⟩ := by
    decide +kernel
  obtain ⟨question, p, hq, hp, hiff⟩ := execute_planStatement_iff hrows hnames hstatement
  cases hq
  rw [hplan] at hp
  cases hp
  exact ⟨hrows, hnames, hstatement, hiff.mpr (by decide)⟩

/-- The same columns in another order. -/
def departures : Table :=
  ⟨[⟨[(.ofText "name", .text "Ada"), (.ofText "from_city", .text "Rome")], by decide⟩]⟩

/-- A later column that begins like `FROM` is lost, and an empty column comes in its place. -/
theorem execute_planStatement_departures :
    departures.rows ≠ [] ∧
      (∀ l ∈ departures.columns, ∃ name, isPlainName name.toList = true ∧ l = .ofText name) ∧
      planStatement (.text "name and from_city") departures.describe =
        .ok "SELECT name, from_city FROM UPLOADED_DATA" ∧
      Plan.ofQuestion "name and from_city" (departures.columns.map (·.cell)) =
        .ok ⟨["name", "from_city"], none, false, none⟩ ∧
      (execute (.text "SELECT name, from_city FROM UPLOADED_DATA") departures).map Row.entries =
        [[(.ofText "name", .text "Ada"), (.ofText "", .null)]] ∧
      (execute (.text "SELECT name, from_city FROM UPLOADED_DATA") departures).map Row.entries ≠
        departures.rows.map (shown ⟨["name", "from_city"], none, false, none⟩) := by
  have hanswer : (execute (.text "SELECT name, from_city FROM UPLOADED_DATA") departures).map
      Row.entries = [[(.ofText "name", .text "Ada"), (.ofText "", .null)]] := rfl
  refine ⟨List.cons_ne_nil _ _, plain_columns ["name", "from_city"] rfl (by decide),
    by decide +kernel, by decide +kernel, hanswer, ?_⟩
  rw [hanswer]
  intro heq
  have hkeys := congrArg (List.map (Entries.keys Label.key)) heq
  exact absurd hkeys (by decide)

end AskTable.Statement

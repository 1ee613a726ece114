import AskTable.Question.Statement

/-!
# What a plan consists of

A plan is read off a question in three parts, and each part may have a fault. Of a plan that was
made, every part is known.

* `bind_eq_ok`: a computation in two parts succeeds exactly when both do.
* `exists_mapM_forall_iff`: a list of computations succeeds, and all results have a property,
  exactly when this holds of each computation.
* `mapM_nameText`: names have texts exactly when all of them are texts.
* `ofQuestion_eq_ok`: the three parts of a plan.
* `ofQuestion_texts`: over columns with names, only the limit may have a fault.
* `planStatement_eq_ok`: what has to be planned for a statement.
* `Plan.named`: all columns that a plan names; `mem_names_of_mem_named`: they come from the schema.
-/

namespace AskTable.Question

open AskTable.Text

/-! ## Computations with faults -/

theorem bind_eq_ok {ε α β : Type} {x : Except ε α} {f : α → Except ε β} {b : β} :
    (x >>= f) = .ok b ↔ ∃ a, x = .ok a ∧ f a = .ok b := by
  cases x with
  | error e => simp [bind, Except.bind]
  | ok a => simp [bind, Except.bind]

theorem exists_of_isOk {ε α : Type} {x : Except ε α} (h : x.isOk = true) : ∃ a, x = .ok a := by
  cases x with
  | error e => cases h
  | ok a => exact ⟨a, rfl⟩

theorem exists_mapM_forall_iff {ε α β : Type} {f : α → Except ε β} {q : β → Prop} {as : List α} :
    (∃ bs, as.mapM f = .ok bs ∧ ∀ b ∈ bs, q b) ↔ ∀ a ∈ as, ∃ b, f a = .ok b ∧ q b := by
  induction as with
  | nil => simp [pure, Except.pure]
  | cons a as ih =>
    rw [List.forall_mem_cons, ← ih]
    simp only [List.mapM_cons, bind_eq_ok]
    constructor
    · rintro ⟨_, ⟨b, hb, bs, hbs, hlist⟩, hall⟩
      cases hlist
      obtain ⟨hq, hall⟩ := List.forall_mem_cons.mp hall
      exact ⟨⟨b, hb, hq⟩, bs, hbs, hall⟩
    · rintro ⟨⟨b, hb, hq⟩, bs, hbs, hall⟩
      exact ⟨b :: bs, ⟨b, hb, bs, hbs, rfl⟩, List.forall_mem_cons.mpr ⟨hq, hall⟩⟩

theorem exists_mapM_eq_ok {ε α β : Type} {f : α → Except ε β} {as : List α} :
    (∃ bs, as.mapM f = .ok bs) ↔ ∀ a ∈ as, ∃ b, f a = .ok b := by
  simpa using exists_mapM_forall_iff (q := fun _ => True) (f := f)

theorem nameText_eq_ok {c : Cell} {s : String} : nameText c = .ok s ↔ c = .text s := by
  cases c <;> simp [nameText]

theorem mapM_nameText {names : List Cell} {texts : List String} :
    names.mapM nameText = .ok texts ↔ names = texts.map .text := by
  induction names generalizing texts with
  | nil => cases texts <;> simp [pure, Except.pure]
  | cons c names ih =>
    rw [List.mapM_cons, bind_eq_ok]
    constructor
    · rintro ⟨s, hs, hrest⟩
      obtain ⟨rest, hm, hr⟩ := bind_eq_ok.mp hrest
      cases hr
      rw [nameText_eq_ok.mp hs, ih.mp hm, List.map_cons]
    · intro h
      cases texts with
      | nil => simp at h
      | cons s rest =>
        rw [List.map_cons, List.cons.injEq] at h
        exact ⟨s, nameText_eq_ok.mpr h.1, bind_eq_ok.mpr ⟨rest, ih.mpr h.2, rfl⟩⟩

/-! ## The parts of a plan -/

theorem columnsOf_eq_ok {question : List Char} {names : List Cell} {columns : List String}
    (h : columnsOf question names = .ok columns) :
    asksForAll question = true ∧ columns = [] ∨
      asksForAll question = false ∧
        ∃ texts, names = texts.map .text ∧ columns = mentioned question texts := by
  unfold columnsOf at h
  split at h
  · rename_i hall
    cases h
    exact Or.inl ⟨hall, rfl⟩
  · rename_i hall
    obtain ⟨texts, hm, hc⟩ := bind_eq_ok.mp h
    cases hc
    exact Or.inr ⟨by simpa using hall, texts, mapM_nameText.mp hm, rfl⟩

theorem sortOf_eq_ok {question : List Char} {names : List Cell} {column : String} {d : Direction}
    (h : sortOf question names = .ok (some (column, d))) :
    ∃ phrase texts, sortPhrase? question = some (phrase, d) ∧ names = texts.map .text ∧
      sortColumn? texts phrase = some column := by
  unfold sortOf at h
  split at h
  · cases h
  · rename_i phrase direction hp
    obtain ⟨texts, hm, hs⟩ := bind_eq_ok.mp h
    simp only [pure, Except.pure, Except.ok.injEq, Option.map_eq_some_iff, Prod.mk.injEq] at hs
    obtain ⟨a, ha, rfl, rfl⟩ := hs
    exact ⟨phrase, texts, hp, mapM_nameText.mp hm, ha⟩

/-- The three parts of a plan. -/
theorem ofQuestion_eq_ok {question : String} {names : List Cell} {p : Plan}
    (h : Plan.ofQuestion question names = .ok p) :
    ∃ sort, limitOf (normalized question) = .ok p.limit ∧
      sortOf (normalized question) names = .ok sort ∧
      columnsOf (normalized question) names = .ok p.columns ∧
      p.orderBy = sort.map (·.1) ∧ p.descending = sort.any fun s => s.2 == .descending := by
  unfold Plan.ofQuestion at h
  obtain ⟨limit, hl, h⟩ := bind_eq_ok.mp h
  obtain ⟨sort, hs, h⟩ := bind_eq_ok.mp h
  obtain ⟨columns, hc, h⟩ := bind_eq_ok.mp h
  cases h
  exact ⟨sort, hl, hs, hc, rfl, rfl⟩

/-! ## Plans over columns with names -/

/-- The column that a question asks to sort by, and the direction. -/
def sortedBy? (question : List Char) (names : List String) : Option (String × Direction) :=
  (sortPhrase? question).bind fun s => (sortColumn? names s.1).map (·, s.2)

/-- The columns that a question asks for. -/
def shownOf (question : List Char) (names : List String) : List String :=
  if asksForAll question then [] else mentioned question names

theorem sortedBy?_eq_some_iff {question : List Char} {names : List String} {name : String}
    {d : Direction} : sortedBy? question names = some (name, d) ↔
      ∃ token, sortPhrase? question = some (token, d) ∧ sortColumn? names token = some name := by
  rw [sortedBy?, Option.bind_eq_some_iff]
  constructor
  · rintro ⟨⟨token, d'⟩, hphrase, hfound⟩
    obtain ⟨column, hcolumn, hsame⟩ := Option.map_eq_some_iff.mp hfound
    obtain ⟨rfl, rfl⟩ := Prod.mk.inj hsame
    exact ⟨token, hphrase, hcolumn⟩
  · rintro ⟨token, hphrase, hcolumn⟩
    exact ⟨(token, d), hphrase, by rw [hcolumn, Option.map_some]⟩

theorem sortOf_eq_sortedBy? (question : List Char) (names : List String) :
    sortOf question (names.map .text) = .ok (sortedBy? question names) := by
  rw [sortOf, sortedBy?, mapM_nameText.mpr rfl]
  cases sortPhrase? question <;> rfl

theorem columnsOf_eq_shownOf (question : List Char) (names : List String) :
    columnsOf question (names.map .text) = .ok (shownOf question names) := by
  rw [columnsOf, shownOf, mapM_nameText.mpr rfl]
  cases asksForAll question <;> rfl

/-- Over columns with names, only the limit may have a fault. -/
theorem ofQuestion_texts (question : String) (names : List String) :
    Plan.ofQuestion question (names.map .text) =
      (limitOf (normalized question)).map fun limit =>
        { columns := shownOf (normalized question) names
          orderBy := (sortedBy? (normalized question) names).map (·.1)
          descending := (sortedBy? (normalized question) names).any fun s => s.2 == .descending
          limit } := by
  rw [Plan.ofQuestion, sortOf_eq_sortedBy?, columnsOf_eq_shownOf]
  cases limitOf (normalized question) <;> rfl

theorem eq_of_ofQuestion {question : String} {names : List String} {p : Plan}
    (h : Plan.ofQuestion question (names.map .text) = .ok p) :
    p.columns = shownOf (normalized question) names ∧
      p.orderBy = (sortedBy? (normalized question) names).map (·.1) ∧
      p.descending = (sortedBy? (normalized question) names).any (fun s => s.2 == .descending) := by
  rw [ofQuestion_texts] at h
  cases hlimit : limitOf (normalized question) with
  | error e =>
    rw [hlimit] at h
    cases h
  | ok limit =>
    rw [hlimit] at h
    cases h
    exact ⟨rfl, rfl, rfl⟩

/-! ## Statements from plans -/

theorem questionText_eq_ok {q : Cell} {question : String} :
    questionText q = .ok question ↔ q = .text question := by
  cases q <;> simp [questionText]

/-- A statement comes from a question in words and its plan. -/
theorem planStatement_eq_ok {q : Cell} {schema : List Descriptor} {statement : String} :
    planStatement q schema = .ok statement ↔
      ∃ question p, q = .text question ∧
        Plan.ofQuestion question (schema.map (·.column)) = .ok p ∧
        statement = p.statement (schemaTable schema) := by
  unfold planStatement
  rw [bind_eq_ok]
  simp only [questionText_eq_ok, bind_eq_ok]
  constructor
  · rintro ⟨question, hq, p, hp, hs⟩
    cases hs
    exact ⟨question, p, hq, hp, rfl⟩
  · rintro ⟨question, p, hq, hp, rfl⟩
    exact ⟨question, hq, p, hp, rfl⟩

theorem columns_describe (t : Table) : t.describe.map (·.column) = t.columns.map (·.cell) := by
  simp [Table.describe, Function.comp_def]

/-! ## The columns that a plan names -/

/-- The columns to show and the one to sort by. -/
def Plan.named (p : Plan) : List String := p.columns ++ p.orderBy.toList

theorem findColumn?_mem {names : List String} {token : List Char} {name : String}
    (h : findColumn? names token = some name) : name ∈ names :=
  List.mem_reverse.mp (List.mem_of_find?_eq_some h)

theorem sortColumn?_mem {names : List String} {phrase : List Char} {name : String}
    (h : sortColumn? names phrase = some name) : name ∈ names := by
  simp only [sortColumn?, Option.orElse_eq_orElse, Option.orElse_eq_or, Option.or_eq_some_iff,
    Option.filter_eq_some_iff] at h
  rcases h with h | ⟨-, h⟩
  · exact findColumn?_mem h.1
  · exact findColumn?_mem h.1

theorem mentioned_subset (question : List Char) (names : List String) :
    ∀ name ∈ mentioned question names, name ∈ names :=
  fun _ h => (List.mem_filter.mp h).1

/-- Every column that a plan names is a column of the schema. -/
theorem mem_names_of_mem_named {question : String} {names : List Cell} {p : Plan}
    (h : Plan.ofQuestion question names = .ok p) {name : String} (hn : name ∈ p.named) :
    .text name ∈ names := by
  obtain ⟨sort, -, hs, hc, ho, -⟩ := ofQuestion_eq_ok h
  rcases List.mem_append.mp hn with hn | hn
  · rcases columnsOf_eq_ok hc with ⟨-, hnil⟩ | ⟨-, texts, rfl, hm⟩
    · simp [hnil] at hn
    · exact List.mem_map_of_mem (mentioned_subset _ _ _ (hm ▸ hn))
  · rw [Option.mem_toList, ho, Option.map_eq_some_iff] at hn
    obtain ⟨⟨column, d⟩, rfl, rfl⟩ := hn
    obtain ⟨phrase, texts, -, rfl, hcol⟩ := sortOf_eq_ok hs
    exact List.mem_map_of_mem (sortColumn?_mem hcol)

/-- Distinct names are planned at most once. -/
theorem columns_nodup {question : String} {texts : List String} {p : Plan}
    (h : Plan.ofQuestion question (texts.map .text) = .ok p) (hn : texts.Nodup) :
    p.columns.Nodup := by
  obtain ⟨sort, -, -, hc, -⟩ := ofQuestion_eq_ok h
  rcases columnsOf_eq_ok hc with ⟨-, hnil⟩ | ⟨-, others, ho, hm⟩
  · simp [hnil]
  · have hinj : others = texts := by
      refine (List.map_inj_right fun a b hab => ?_).mp ho.symm
      exact Cell.text.inj hab
    rw [hm, hinj]
    exact hn.filter _

end AskTable.Question

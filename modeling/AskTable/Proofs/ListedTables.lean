import AskTable.Model.Translator
import AskTable.Proofs.DistinctCounts
import AskTable.Proofs.PickedFile
import AskTable.Proofs.ReadBack

/-!
# The tables that a request lists

A request to a model has the first fifty descriptors of a schema, and it lists the tables of all of
them. So two schemas that agree on their first fifty descriptors are asked about in the same way
exactly when their tables are listed in the same way.

* `listedTables?`, `requests_translate`: what is sent, in terms of the first fifty descriptors and
  of the list of tables.
* `prompt_inj`: requests differ as soon as their lists do.
* `splitOn_listTail`, `tableList_inj`: a list of names without commas can be taken apart again.
* `distinctInOrder`, `distinctInOrder_inj`: names are listed by which there are.
* `requests_eq_iff_listedTables?`, `listedTables?_eq_iff`: only the lists of tables can tell two
  schemas apart, and without commas in names these tell which tables there are.
* `same_requests_iff`: when two schemas are asked about in the same way.
-/

namespace AskTable.Model

open AskTable.Question AskTable.Statement AskTable.Text

/-! ## Requests -/

/-- The list of tables in a request about a schema; there is none unless all of them have names. -/
def listedTables? (schema : List Descriptor) : Option String :=
  (tableNames schema).toOption.map tableList

/-- What is sent: at most one request, with the first fifty descriptors and a list of all tables. -/
theorem requests_translate (model : Request → Reply) (access : Access) (dialect : String)
    (question : Cell) (schema : List Descriptor) :
    (translate model access dialect question schema).requests =
      (access.key.bind fun key => (listedTables? schema).map fun tables =>
        { apiKey := key, model := access.model
          message := prompt dialect question.plainText (schemaText (schema.take 50))
            tables }).toList := by
  rw [translate]
  cases access.key with
  | none => rfl
  | some key =>
    simp only [listedTables?, Request.of]
    cases tableNames schema <;> rfl

/-- Requests differ as soon as their lists of tables do. -/
theorem prompt_inj {dialect question schema tables tables' : String}
    (h : prompt dialect question schema tables = prompt dialect question schema tables') :
    tables = tables' := by
  unfold prompt at h
  -- seven pieces of text follow the list
  iterate 7 replace h := (String.append_left_inj _).mp h
  exact (String.append_right_inj _).mp h

/-! ## Lists of tables -/

/-- Names without commas are told apart by the commas between them. -/
theorem splitOn_listTail {name : String} {names : List String} (hname : ',' ∉ name.toList)
    (hnames : ∀ n ∈ names, ',' ∉ n.toList) :
    splitOn ',' (name.toList ++ listTail names) =
      name.toList :: names.map fun n => ' ' :: n.toList := by
  induction names generalizing name with
  | nil => rw [listTail, List.flatMap_nil, List.append_nil, splitOn_of_not_mem hname, List.map_nil]
  | cons n names ih =>
    obtain ⟨hn, hrest⟩ := List.forall_mem_cons.mp hnames
    have hspaced : ',' ∉ (" " ++ n).toList := by
      rw [String.toList_append, List.mem_append, not_or]
      exact ⟨by decide, hn⟩
    have htail : listTail (n :: names) = ',' :: ((" " ++ n).toList ++ listTail names) := by
      simp [listTail]
    rw [htail, splitOn_append_cons hname, ih hspaced hrest, String.toList_append]
    rfl

theorem tableList_inj {names names' : List String} (hempty : names = [] ↔ names' = [])
    (h : ∀ n ∈ names, ',' ∉ n.toList) (h' : ∀ n ∈ names', ',' ∉ n.toList)
    (heq : tableList names = tableList names') : names = names' := by
  cases names with
  | nil => exact (hempty.mp rfl).symm
  | cons first names =>
    cases names' with
    | nil => exact hempty.mpr rfl
    | cons first' names' =>
      obtain ⟨hfirst, hrest⟩ := List.forall_mem_cons.mp h
      obtain ⟨hfirst', hrest'⟩ := List.forall_mem_cons.mp h'
      have hlist := congrArg String.toList heq
      rw [tableList, tableList, List.isEmpty_cons, List.isEmpty_cons, if_neg Bool.false_ne_true,
        if_neg Bool.false_ne_true, toList_intercalate_cons, toList_intercalate_cons] at hlist
      have hpieces := congrArg (splitOn ',') hlist
      rw [splitOn_listTail hfirst hrest, splitOn_listTail hfirst' hrest', List.cons.injEq]
        at hpieces
      have hspaced : Function.Injective fun n : String => ' ' :: n.toList :=
        fun a b hab => String.toList_inj.mp (List.cons.inj hab).2
      rw [String.toList_inj.mp hpieces.1, hspaced.list_map hpieces.2]

/-- Names without repetitions, in the order of their code points. -/
def distinctInOrder (names : List String) : List String :=
  names.eraseDups.mergeSort fun a b => a ≤ b

theorem mem_distinctInOrder {names : List String} {name : String} :
    name ∈ distinctInOrder names ↔ name ∈ names := by
  rw [distinctInOrder, List.mem_mergeSort, List.mem_eraseDups]

theorem distinctInOrder_eq_nil_iff {names : List String} :
    distinctInOrder names = [] ↔ names = [] := by
  simp only [List.eq_nil_iff_forall_not_mem, mem_distinctInOrder]

/-- Names are listed by which there are. -/
theorem distinctInOrder_inj {names names' : List String} :
    distinctInOrder names = distinctInOrder names' ↔ ∀ name, name ∈ names ↔ name ∈ names' := by
  constructor
  · intro h name
    rw [← mem_distinctInOrder, h, mem_distinctInOrder]
  · intro h
    have hsame : names.eraseDups.Perm names'.eraseDups := by
      rw [List.perm_ext_iff_of_nodup (nodup_eraseDups names) (nodup_eraseDups names')]
      simpa only [List.mem_eraseDups] using h
    have hperm : (distinctInOrder names).Perm (distinctInOrder names') :=
      (List.mergeSort_perm _ _).trans (hsame.trans (List.mergeSort_perm _ _).symm)
    exact hperm.eq_of_pairwise (fun a b _ _ => String.le_antisymm) (pairwise_mergeSort_le _)
      (pairwise_mergeSort_le _)

/-! ## Two schemas -/

theorem tableNames_eq_ok {schema : List Descriptor} {tables : List String}
    (h : schema.map (·.table) = tables.map .text) :
    tableNames schema = .ok (distinctInOrder tables) := by
  have hnames : schema.mapM (fun d => tableName 0 d.table) = .ok tables := by
    have hcells : (schema.map (·.table)).mapM (tableName 0) = .ok tables := by
      rw [h, List.mapM_map]
      exact List.mapM_pure.trans (by rw [List.map_id']; rfl)
    rwa [List.mapM_map] at hcells
  exact bind_eq_ok.mpr ⟨tables, hnames, rfl⟩

section

variable (model : Request → Reply) (access : Access) (dialect : String) (question : Cell)
  {schema schema' : List Descriptor} (hfront : schema.take 50 = schema'.take 50)
include hfront

/-- Only the lists of tables can tell apart what is sent. -/
theorem requests_eq_iff_listedTables? :
    (translate model access dialect question schema).requests =
        (translate model access dialect question schema').requests ↔
      access.key = none ∨ listedTables? schema = listedTables? schema' := by
  rw [requests_translate, requests_translate, hfront]
  cases access.key with
  | none => simp
  | some key =>
    rw [or_iff_right (by simp)]
    cases listedTables? schema with
    | none => cases listedTables? schema' <;> simp
    | some tables =>
      cases listedTables? schema' with
      | none => simp
      | some tables' =>
        simp only [Option.bind_some, Option.map_some, Option.toList_some, List.cons.injEq,
          Request.mk.injEq, true_and, and_true, Option.some.injEq]
        exact ⟨prompt_inj, fun h => by rw [h]⟩

/-- Tables without commas in their names are listed in the same way only if they are the same. -/
theorem listedTables?_eq_iff {tables tables' : List String}
    (h : schema.map (·.table) = tables.map .text) (h' : schema'.map (·.table) = tables'.map .text)
    (hcommas : ∀ table ∈ tables ++ tables', ',' ∉ table.toList) :
    listedTables? schema = listedTables? schema' ↔ ∀ table, table ∈ tables ↔ table ∈ tables' := by
  have hnil {schema : List Descriptor} {tables : List String}
      (h : schema.map (·.table) = tables.map .text) :
      distinctInOrder tables = [] ↔ schema.take 50 = [] := by
    rw [distinctInOrder_eq_nil_iff, ← List.map_eq_nil_iff, ← h, List.map_eq_nil_iff]
    simp
  have hempty : distinctInOrder tables = [] ↔ distinctInOrder tables' = [] := by
    rw [hnil h, hnil h', hfront]
  have hfree {names : List String} (hnames : ∀ name ∈ names, name ∈ tables ++ tables') :
      ∀ name ∈ distinctInOrder names, ',' ∉ name.toList :=
    fun name hname => hcommas name (hnames name (mem_distinctInOrder.mp hname))
  rw [listedTables?, listedTables?, tableNames_eq_ok h, tableNames_eq_ok h', ← distinctInOrder_inj]
  refine ⟨fun heq => ?_, fun heq => by rw [heq]⟩
  exact tableList_inj hempty (hfree fun _ => List.mem_append_left _)
    (hfree fun _ => List.mem_append_right _) (Option.some.inj heq)

/-- **When two schemas are asked about in the same way.** Of two schemas that agree on their first
fifty descriptors the same is sent exactly when there is no key or their tables are listed in the
same way, and so always when they have the same tables. Where no name of a table has a comma, with
a key the same is sent only when they have the same tables. -/
theorem same_requests_iff :
    ((translate model access dialect question schema).requests =
        (translate model access dialect question schema').requests ↔
      access.key = none ∨ listedTables? schema = listedTables? schema') ∧
    ∀ tables tables' : List String, schema.map (·.table) = tables.map .text →
      schema'.map (·.table) = tables'.map .text →
      ((∀ table, table ∈ tables ↔ table ∈ tables') →
        (translate model access dialect question schema).requests =
          (translate model access dialect question schema').requests) ∧
      (access.key ≠ none → (∀ table ∈ tables ++ tables', ',' ∉ table.toList) →
        ((translate model access dialect question schema).requests =
          (translate model access dialect question schema').requests ↔
        ∀ table, table ∈ tables ↔ table ∈ tables')) := by
  have hsame := requests_eq_iff_listedTables? model access dialect question hfront
  refine ⟨hsame, fun tables tables' h h' => ⟨fun htables => ?_, fun hkey hcommas => ?_⟩⟩
  · rw [hsame, listedTables?, listedTables?, tableNames_eq_ok h, tableNames_eq_ok h',
      distinctInOrder_inj.mpr htables]
    exact Or.inr rfl
  · rw [hsame, or_iff_right hkey, listedTables?_eq_iff hfront h h' hcommas]

end

/-! ## Fifty columns and one more -/

/-- A column of numbers. -/
def numberColumn (table column : String) : Descriptor :=
  ⟨.text table, .text column, .text "NUMBER", true⟩

/-- A table of fifty columns. -/
def orders : List Descriptor :=
  (List.range 50).map fun i => numberColumn "ORDERS" (String.ofList ('C' :: digitsOf i))

/-- One more column of the same table is not seen, whatever its name is. -/
theorem same_requests_orders :
    (orders ++ [numberColumn "ORDERS" "DISCOUNT"]).take 50 =
        (orders ++ [numberColumn "ORDERS" "MARGIN", numberColumn "ORDERS" "TAX"]).take 50 ∧
      (translate (fun _ => .refused) ⟨some "sk-1", "gpt-4o-mini"⟩ "Snowflake" (.text "all")
          (orders ++ [numberColumn "ORDERS" "DISCOUNT"])).requests =
        (translate (fun _ => .refused) ⟨some "sk-1", "gpt-4o-mini"⟩ "Snowflake" (.text "all")
          (orders ++ [numberColumn "ORDERS" "MARGIN", numberColumn "ORDERS" "TAX"])).requests := by
  have hfront : (orders ++ [numberColumn "ORDERS" "DISCOUNT"]).take 50 =
      (orders ++ [numberColumn "ORDERS" "MARGIN", numberColumn "ORDERS" "TAX"]).take 50 := rfl
  obtain ⟨-, htables⟩ := same_requests_iff (fun _ => .refused) ⟨some "sk-1", "gpt-4o-mini"⟩
    "Snowflake" (.text "all") hfront
  obtain ⟨-, hnames⟩ := htables (List.replicate 51 "ORDERS") (List.replicate 52 "ORDERS") rfl rfl
  exact ⟨hfront, (hnames (by simp) (by decide)).mpr (by simp)⟩

/-- A column of another table after the fifty: its table is sent with the request. -/
theorem requests_payroll :
    (orders ++ [numberColumn "PAYROLL" "SALARY"]).take 50 = orders.take 50 ∧
      (translate (fun _ => .refused) ⟨some "sk-1", "gpt-4o-mini"⟩ "Snowflake" (.text "all")
          (orders ++ [numberColumn "PAYROLL" "SALARY"])).requests ≠
        (translate (fun _ => .refused) ⟨some "sk-1", "gpt-4o-mini"⟩ "Snowflake" (.text "all")
          orders).requests := by
  have hfront : (orders ++ [numberColumn "PAYROLL" "SALARY"]).take 50 = orders.take 50 := rfl
  have hlong : (orders ++ [numberColumn "PAYROLL" "SALARY"]).map (·.table) =
      (List.replicate 50 "ORDERS" ++ ["PAYROLL"]).map .text := rfl
  have hshort : orders.map (·.table) = (List.replicate 50 "ORDERS").map .text := rfl
  have hcommas : ∀ table ∈ (List.replicate 50 "ORDERS" ++ ["PAYROLL"]) ++
      List.replicate 50 "ORDERS", ',' ∉ table.toList := by decide
  refine ⟨hfront, fun hsame => ?_⟩
  rcases (requests_eq_iff_listedTables? _ _ _ _ hfront).mp hsame with hkey | hlisted
  · cases hkey
  · have hpayroll := ((listedTables?_eq_iff hfront hlong hshort hcommas).mp hlisted "PAYROLL").mp
      (by decide)
    exact absurd hpayroll (by decide)

end AskTable.Model

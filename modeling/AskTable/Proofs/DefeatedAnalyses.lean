import AskTable.Proofs.SkippedValues

/-!
# Defeated analyses

An analysis goes through every part of a result, and only two kinds of values stop it: a cell of the
sample that has no key although cells of its kind have keys, and a whole number beyond all binary
ones in a numeric column. The error tells what the first of them was.

* `FirstFails`: the first of several steps that fails; `mapM_eq_error_iff`.
* `Cell.Keyless`: the cells without a key; `exists_key_error_iff`.
* `FirstKeyless`: what the measures of a sample fail with, column by column.
* `HoldsKeyless`, `HoldsTooLarge`: the results that are not analysed.
* `analyze_defeated_iff`: all others are, and what the error of these is.
-/

namespace AskTable

open AskTable.Number AskTable.Question

/-! ## The first failure -/

/-- The first of some values that fails. -/
inductive FirstFails {α ε : Type} (fails : α → ε → Prop) : List α → ε → Prop
  | here {a : α} {as : List α} {e : ε} : fails a e → FirstFails fails (a :: as) e
  | later {a : α} {as : List α} {e : ε} :
    (∀ e, ¬ fails a e) → FirstFails fails as e → FirstFails fails (a :: as) e

section FirstFails

variable {α β ε : Type} {fails fails' : α → ε → Prop}

theorem not_firstFails_nil {e : ε} : ¬ FirstFails fails [] e := nofun

theorem firstFails_cons_iff {a : α} {as : List α} {e : ε} :
    FirstFails fails (a :: as) e ↔ fails a e ∨ (∀ e, ¬ fails a e) ∧ FirstFails fails as e := by
  constructor
  · rintro (h | ⟨h, hrest⟩)
    · exact Or.inl h
    · exact Or.inr ⟨h, hrest⟩
  · rintro (h | ⟨h, hrest⟩)
    · exact .here h
    · exact .later h hrest

theorem FirstFails.exists_mem {as : List α} {e : ε} (h : FirstFails fails as e) :
    ∃ a ∈ as, fails a e := by
  induction h with
  | here h => exact ⟨_, List.mem_cons_self, h⟩
  | later _ _ ih =>
    obtain ⟨a, ha, h⟩ := ih
    exact ⟨a, List.mem_cons_of_mem _ ha, h⟩

/-- One of the values fails first as soon as one fails. -/
theorem exists_firstFails_iff {as : List α} :
    (∃ e, FirstFails fails as e) ↔ ∃ a ∈ as, ∃ e, fails a e := by
  induction as with
  | nil => simp [not_firstFails_nil]
  | cons a as ih =>
    rw [List.exists_mem_cons_iff, ← ih]
    by_cases h : ∃ e, fails a e
    · obtain ⟨e, he⟩ := h
      exact iff_of_true ⟨e, .here he⟩ (Or.inl ⟨e, he⟩)
    · rw [or_iff_right h]
      refine exists_congr fun e => ?_
      rw [firstFails_cons_iff, or_iff_right fun he => h ⟨e, he⟩,
        and_iff_right fun e he => h ⟨e, he⟩]

theorem firstFails_congr (h : ∀ a e, fails a e ↔ fails' a e) (as : List α) (e : ε) :
    FirstFails fails as e ↔ FirstFails fails' as e := by
  rw [show fails = fails' from funext fun a => funext fun e => propext (h a e)]

theorem firstFails_map_iff {g : β → α} {as : List β} {e : ε} :
    FirstFails fails (as.map g) e ↔ FirstFails (fun b => fails (g b)) as e := by
  induction as with
  | nil => exact iff_of_false not_firstFails_nil not_firstFails_nil
  | cons b as ih => rw [List.map_cons, firstFails_cons_iff, firstFails_cons_iff, ih]

/-- Values that cannot fail may be left out. -/
theorem firstFails_filter_iff {p : α → Bool} (hp : ∀ a, p a = false → ∀ e, ¬ fails a e)
    {as : List α} {e : ε} : FirstFails fails (as.filter p) e ↔ FirstFails fails as e := by
  induction as with
  | nil => rfl
  | cons a as ih =>
    cases h : p a with
    | true =>
      rw [List.filter_cons_of_pos h, firstFails_cons_iff, firstFails_cons_iff, ih]
    | false =>
      rw [List.filter_cons_of_neg (by simp [h]), ih, firstFails_cons_iff,
        or_iff_right (hp a h e), and_iff_right (hp a h)]

theorem bind_eq_error {x : Except ε α} {f : α → Except ε β} {e : ε} :
    x >>= f = .error e ↔ x = .error e ∨ ∃ a, x = .ok a ∧ f a = .error e := by
  cases x with
  | error e' => simp [bind, Except.bind]
  | ok a => simp [bind, Except.bind]

theorem bind_pure_eq_error {x : Except ε α} {g : α → β} {e : ε} :
    (x >>= fun a => pure (g a)) = .error e ↔ x = .error e := by
  rw [bind_eq_error, or_iff_left]
  rintro ⟨a, -, h⟩
  cases h

theorem exists_eq_ok_iff {x : Except ε α} : (∃ a, x = .ok a) ↔ ¬ ∃ e, x = .error e := by
  cases x <;> simp

theorem ReturnsUnless.eq_error_iff {x : Except ε α} {condition : Prop} {fault e : ε}
    (h : ReturnsUnless x condition fault) : x = .error e ↔ condition ∧ e = fault := by
  constructor
  · intro he
    by_cases hc : condition
    · exact ⟨hc, Except.error.inj (he.symm.trans (h.error hc))⟩
    · exact absurd ⟨e, he⟩ (exists_eq_ok_iff.mp (h.ok hc))
  · rintro ⟨hc, rfl⟩
    exact h.error hc

/-- Steps in sequence fail as the first of them that fails. -/
theorem mapM_eq_error_iff {f : α → Except ε β} {as : List α} {e : ε} :
    as.mapM f = .error e ↔ FirstFails (fun a e => f a = .error e) as e := by
  induction as with
  | nil => exact iff_of_false nofun not_firstFails_nil
  | cons a as ih =>
    rw [List.mapM_cons, bind_eq_error, firstFails_cons_iff]
    simp only [bind_pure_eq_error, ih]
    cases f a with
    | error e' => simp
    | ok b => simp

end FirstFails

/-! ## Cells without a key -/

namespace Cell

/-- Lists, dictionaries and frames, which count as the text of their literal. -/
def isNested : Cell → Bool
  | .list _ | .dict _ | .frame _ => true
  | _ => false

/-- The cells without a key, and why they have none: it is a nested value, a signalling number, or a
tuple that holds one of these. -/
inductive Keyless : Cell → Fault → Prop
  | list (cells : List Cell) : Keyless (.list cells) (.noKey "list")
  | dict (entries : List (Cell × Cell)) : Keyless (.dict entries) (.noKey "dict")
  | frame (f : Framed Cell) : Keyless (.frame f) (.noKey "DataFrame")
  | signalling (negative : Bool) (payload : Nat) :
    Keyless (.decimal (.nan negative true payload)) .signallingKey
  | tuple {cells : List Cell} {c : Cell} {fault : Fault} :
    c ∈ cells → Keyless c fault → Keyless (.tuple cells) fault

theorem keys_eq_error_iff {cells : List Cell} {fault : Fault} :
    keys cells = .error fault ↔ FirstFails (fun c e => c.key = .error e) cells fault := by
  induction cells with
  | nil => exact iff_of_false nofun not_firstFails_nil
  | cons c cells ih =>
    rw [firstFails_cons_iff, keys, ← ih]
    cases c.key with
    | error e => simp
    | ok k => cases keys cells <;> simp

theorem key_tuple_eq_error_iff {cells : List Cell} {fault : Fault} :
    (Cell.tuple cells).key = .error fault ↔
      FirstFails (fun c e => c.key = .error e) cells fault := by
  rw [← keys_eq_error_iff, key]
  cases keys cells <;> simp

/-- What a key fails with is why some part of the cell has none. -/
theorem keyless_of_key (c : Cell) : ∀ {fault : Fault}, c.key = .error fault → c.Keyless fault := by
  induction c using Cell.induction with
  | h c ih =>
    intro fault h
    cases c with
    | list => cases h; exact .list _
    | dict => cases h; exact .dict _
    | frame => cases h; exact .frame _
    | decimal d =>
      rcases d with _ | _ | ⟨negative, _ | _, payload⟩
      · cases h
      · cases h
      · cases h
      · cases h
        exact .signalling negative payload
    | tuple cells =>
      obtain ⟨part, hpart, hfault⟩ := (key_tuple_eq_error_iff.mp h).exists_mem
      exact .tuple hpart (ih part hpart hfault)
    | boxed c =>
      cases c with
      | float x => cases x <;> cases h
      | _ => cases h
    | stamp m => cases m <;> cases h
    | _ => cases h

theorem Keyless.exists_key_error {c : Cell} {fault : Fault} (h : c.Keyless fault) :
    ∃ e, c.key = .error e := by
  induction h with
  | list | dict | frame | signalling => exact ⟨_, rfl⟩
  | @tuple cells c _ hc _ ih =>
    obtain ⟨e, he⟩ : ∃ e, FirstFails (fun (c : Cell) e => c.key = .error e) cells e :=
      exists_firstFails_iff.mpr ⟨c, hc, ih⟩
    exact ⟨e, key_tuple_eq_error_iff.mpr he⟩

/-- A cell cannot be counted exactly when it has no key although it is not nested. -/
theorem exists_kin_error_iff (c : Cell) :
    (∃ e, c.kin = .error e) ↔ c.isNested = false ∧ ∃ fault, c.Keyless fault := by
  have hkey : (∃ e, c.key = .error e) ↔ ∃ fault, c.Keyless fault :=
    ⟨fun ⟨e, he⟩ => ⟨e, keyless_of_key c he⟩, fun ⟨_, h⟩ => h.exists_key_error⟩
  rw [← hkey]
  cases c with
  | list | dict | frame => exact iff_of_false nofun (by simp [isNested])
  | _ => exact (and_iff_right rfl).symm

end Cell

/-! ## The measures of a sample -/

namespace Report

/-- Some cell of the sample, in a column of the first row, has no key although it is not nested. -/
def HoldsKeyless (rows : List Row) : Prop :=
  ∃ row ∈ rows.take 100, ∃ label ∈ firstColumns rows,
    (row.get label).isNested = false ∧ ∃ fault, (row.get label).Keyless fault

/-- Some cell in a column that the first row tells numeric is a whole number beyond all binary
ones. -/
def HoldsTooLarge (rows : List Row) : Prop :=
  ∃ row ∈ rows, ∃ label ∈ numericLabels rows, (row.get label).IsBeyond

/-- The fault of the first cell of the sample that cannot be counted, column by column. -/
def FirstKeyless (rows : List Row) : Fault → Prop :=
  FirstFails (fun label => FirstFails (fun (row : Row) e => (row.get label).kin = .error e)
    (rows.take 100)) (firstColumns rows)

theorem exists_firstKeyless_iff (rows : List Row) :
    (∃ fault, FirstKeyless rows fault) ↔ HoldsKeyless rows := by
  simp only [FirstKeyless, exists_firstFails_iff, Cell.exists_kin_error_iff, HoldsKeyless]
  constructor
  · rintro ⟨label, hlabel, row, hrow, h⟩
    exact ⟨row, hrow, label, hlabel, h⟩
  · rintro ⟨row, hrow, label, hlabel, h⟩
    exact ⟨label, hlabel, row, hrow, h⟩

theorem column_mapM_kin_eq_error_iff {sample : List Row} {label : Label} {fault : Fault} :
    (column sample label).mapM Cell.kin = .error fault ↔
      FirstFails (fun (row : Row) e => (row.get label).kin = .error e) sample fault := by
  rw [mapM_eq_error_iff, column, firstFails_map_iff]

theorem uniqueness_eq_error_iff {sample : List Row} {label : Label} {fault : Fault} :
    uniqueness sample label = .error fault ↔
      FirstFails (fun (row : Row) e => (row.get label).kin = .error e) sample fault := by
  rw [uniqueness, bind_pure_eq_error, distinctCount, bind_pure_eq_error,
    column_mapM_kin_eq_error_iff]

theorem consistency_eq_error_iff {sample : List Row} {label : Label} {fault : Fault} :
    consistency sample label = .error fault ↔
      FirstFails (fun (row : Row) e => (row.get label).kin = .error e) sample fault := by
  have hnull (c : Cell) (h : (!c.isNull) = false) (e : Fault) : ¬ c.kin = .error e := by
    have hc : c = .null := by cases c <;> first | rfl | cases h
    rw [hc]
    nofun
  rw [← column_mapM_kin_eq_error_iff, consistency, bind_pure_eq_error, distinctCount,
    bind_pure_eq_error, mapM_eq_error_iff, mapM_eq_error_iff, presentCells,
    firstFails_filter_iff hnull]

theorem measured_eq_error_iff {α : Type} {f : Label → Except Fault α} {columns : List Label}
    {fault : Fault} : measured f columns = .error fault ↔
      FirstFails (fun label e => f label = .error e) columns fault := by
  rw [measured, bind_pure_eq_error, mapM_eq_error_iff]
  exact firstFails_congr (fun _ _ => bind_pure_eq_error) columns fault

/-- The quality of rows fails as its first cell that cannot be counted. -/
theorem assess_eq_error_iff {rows : List Row} {fault : Fault} :
    Quality.assess rows = .error fault ↔ FirstKeyless rows fault := by
  cases rows with
  | nil => exact iff_of_false nofun not_firstFails_nil
  | cons first rows =>
    let sample := (first :: rows).take sampleRows
    have hvaried : measured (consistency sample) (firstColumns (first :: rows)) = .error fault ↔
        FirstKeyless (first :: rows) fault := by
      rw [measured_eq_error_iff]
      exact firstFails_congr (fun _ _ => consistency_eq_error_iff) _ _
    have hunique : measured (uniqueness sample) (firstColumns (first :: rows)) = .error fault ↔
        FirstKeyless (first :: rows) fault := by
      rw [measured_eq_error_iff]
      exact firstFails_congr (fun _ _ => uniqueness_eq_error_iff) _ _
    have hfilled (e : Fault) : ¬ measured (fun l => .ok (completeness sample l))
        (firstColumns (first :: rows)) = .error e := by
      intro h
      obtain ⟨label, -, hlabel⟩ := (measured_eq_error_iff.mp h).exists_mem
      cases hlabel
    constructor
    · intro h
      rcases bind_eq_error.mp h with h | ⟨filled, -, h⟩
      · exact absurd h (hfilled fault)
      · rcases bind_eq_error.mp h with h | ⟨varied, -, h⟩
        · exact hvaried.mp h
        · exact hunique.mp (bind_pure_eq_error.mp h)
    · intro h
      obtain ⟨filled, hok⟩ := exists_eq_ok_iff.mpr fun ⟨e, he⟩ => hfilled e he
      exact bind_eq_error.mpr (Or.inr ⟨filled, hok, bind_eq_error.mpr (Or.inl (hvaried.mpr h))⟩)

/-- A chart fails only for a whole number beyond all binary ones. -/
theorem recommend_eq_error_iff {rows : List Row} {fault : Fault} :
    recommend rows (firstColumns rows) = .error fault ↔
      HoldsTooLarge rows ∧ fault = .tooLarge := by
  have hholds : (∃ label ∈ numericLabels rows, HoldsBeyond rows label) ↔ HoldsTooLarge rows := by
    constructor
    · rintro ⟨label, hlabel, c, hc, hbeyond⟩
      obtain ⟨row, hrow, rfl⟩ := List.mem_map.mp hc
      exact ⟨row, hrow, label, hlabel, hbeyond⟩
    · rintro ⟨row, hrow, label, hlabel, hbeyond⟩
      exact ⟨label, hlabel, _, List.mem_map_of_mem hrow, hbeyond⟩
  rw [← hholds]
  exact (recommend_returnsUnless rows (firstColumns rows)).eq_error_iff

/-- An analysis of a statement fails as the measures of the sample, or else as the chart. -/
theorem compose_eq_error_iff {time source s : String} {question : Cell} {rows : List Row}
    {fault : Fault} : compose time question (.text s) rows source = .error fault ↔
      FirstKeyless rows fault ∨ ¬ HoldsKeyless rows ∧ HoldsTooLarge rows ∧ fault = .tooLarge := by
  have hprofile (e : Fault) : profile rows (summarize rows) = .error e ↔ FirstKeyless rows e := by
    rw [profile, bind_pure_eq_error, assess_eq_error_iff]
  have hreturns : (∃ insights, profile rows (summarize rows) = .ok insights) ↔
      ¬ HoldsKeyless rows := by
    rw [exists_eq_ok_iff, ← exists_firstKeyless_iff]
    simp only [hprofile]
  have hchart (f : Chart → Envelope) : (recommend rows (firstColumns rows) >>= fun chart =>
      pure (f chart)) = .error fault ↔ HoldsTooLarge rows ∧ fault = .tooLarge := by
    rw [bind_pure_eq_error, recommend_eq_error_iff]
  rw [compose, bind_eq_error, hprofile, ← hreturns]
  refine or_congr Iff.rfl ?_
  simp only [← exists_and_right]
  exact exists_congr fun insights => and_congr_right fun _ => hchart _

/-- **Only two kinds of values defeat an analysis.** The result of a statement has an envelope,
unless a cell of its sample has no key although it is not nested, or a numeric column holds a whole
number beyond all binary ones. The error tells the fault of the first such cell of the sample, and
of the number only if there is none. -/
theorem analyze_defeated_iff (time source s : String) (question : Cell) (rows : List Row) :
    ((∃ envelope, analyze time question (.text s) rows source = .ok envelope) ↔
      ¬ (HoldsKeyless rows ∨ HoldsTooLarge rows)) ∧
    ∀ error, analyze time question (.text s) rows source = .error error ↔ ∃ fault : Fault,
      error = { kind := .internalProcessing, message := "Failed to process query results"
                details := some fault.message } ∧
      (FirstKeyless rows fault ∨ ¬ HoldsKeyless rows ∧ HoldsTooLarge rows ∧ fault = .tooLarge) := by
  have hfault : (∃ fault, compose time question (.text s) rows source = .error fault) ↔
      HoldsKeyless rows ∨ HoldsTooLarge rows := by
    simp only [compose_eq_error_iff, exists_or, exists_firstKeyless_iff]
    constructor
    · rintro (h | ⟨fault, -, h, -⟩)
      · exact Or.inl h
      · exact Or.inr h
    · intro h
      by_cases hkeyless : HoldsKeyless rows
      · exact Or.inl hkeyless
      · exact Or.inr ⟨.tooLarge, hkeyless, h.resolve_left hkeyless, rfl⟩
  have hcause (fault : Fault) : FirstKeyless rows fault ∨ ¬ HoldsKeyless rows ∧
      HoldsTooLarge rows ∧ fault = .tooLarge ↔
        compose time question (.text s) rows source = .error fault :=
    compose_eq_error_iff.symm
  rw [← hfault, ← exists_eq_ok_iff, analyze]
  simp only [hcause]
  cases compose time question (.text s) rows source with
  | ok envelope => simp
  | error fault => simp [eq_comm]

/-- A row with a tuple that holds a list. -/
def taggedRow : Row := Row.ofList [(.ofText "tags", .tuple [.null, .list []])]

/-- A tuple that holds a list defeats the measures of the sample, and a whole number of 401 digits
defeats the chart. -/
theorem analyze_defeated_rows :
    HoldsKeyless [taggedRow] ∧
      analyze "" (.text "tags") (.text "SELECT * FROM T") [taggedRow] localSource = .error
        { kind := .internalProcessing, message := "Failed to process query results"
          details := some "unhashable type: 'list'" } ∧
      HoldsTooLarge [hugeRow] ∧ ¬ HoldsKeyless [hugeRow] ∧
      analyze "" (.text "amount") (.text "SELECT * FROM T") [hugeRow] localSource = .error
        { kind := .internalProcessing, message := "Failed to process query results"
          details := some "int too large to convert to float" } := by
  have hlist : FirstKeyless [taggedRow] (.noKey "list") := .here (.here rfl)
  have hcounted : ¬ HoldsKeyless [hugeRow] := by
    rintro ⟨row, hrow, label, hlabel, -, fault, hfault⟩
    cases List.mem_singleton.mp hrow
    cases List.mem_singleton.mp hlabel
    rw [get_hugeRow] at hfault
    cases hfault
  have hlarge : HoldsTooLarge [hugeRow] :=
    ⟨hugeRow, List.mem_cons_self, .ofText "amount", List.mem_cons_self, isBeyond_hugeRow⟩
  obtain ⟨-, htagged⟩ :=
    analyze_defeated_iff "" localSource "SELECT * FROM T" (.text "tags") [taggedRow]
  obtain ⟨-, hhuge⟩ :=
    analyze_defeated_iff "" localSource "SELECT * FROM T" (.text "amount") [hugeRow]
  exact ⟨(exists_firstKeyless_iff _).mp ⟨_, hlist⟩,
    (htagged _).mpr ⟨.noKey "list", rfl, Or.inl hlist⟩, hlarge, hcounted,
    (hhuge _).mpr ⟨.tooLarge, rfl, Or.inr ⟨hcounted, hlarge, rfl⟩⟩⟩

/-- A list counts as its text, but a tuple that holds one cannot be counted. -/
example : (Cell.list []).kin = .ok [.text "[]"] ∧
    (Cell.tuple [.null, .list []]).kin = .error (.noKey "list") := by decide

end Report

end AskTable

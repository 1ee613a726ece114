import AskTable.Proofs.Failures
import AskTable.Proofs.Fallback
import AskTable.Proofs.LoadedTables
import AskTable.Terminal.Launch

/-!
# Asking about columns that have no text

The rules read the names of columns as texts, but only as far as a question makes them: one that
speaks of everything and sorts nothing has a plan over any names.

* `looksAtNames`: does a question make the rules read the names?
* `planStatement_eq_ok_iff`: there is a statement when no name is read or all are texts.
* `planStatement_of_firstOther?`: otherwise the first name that is no text is the fault.
* `submit_of_translator_ok`, `submit_of_translator_error`: how a question over a data file ends.
* `loaded_asked_iff`: which loaded files can be asked about, and what the answer is otherwise.
-/

namespace AskTable

open AskTable.File AskTable.Inquiry AskTable.Model AskTable.Number AskTable.Question
open AskTable.Report AskTable.Statement AskTable.Terminal AskTable.Text

/-! ## Plans over any names -/

namespace Question

/-- Does a question make the rules read the names of columns? -/
def looksAtNames (question : String) : Bool :=
  !asksForAll (normalized question) || (sortPhrase? (normalized question)).isSome

theorem mapM_nameText_of_find? {names : List Cell} {c : Cell}
    (h : names.find? (fun c => !c.isText) = some c) :
    names.mapM nameText = .error (.lacks c.kindName "lower") := by
  induction names with
  | nil => cases h
  | cons name names ih =>
    rw [List.mapM_cons]
    cases hname : name.isText with
    | false =>
      rw [List.find?_cons_of_pos (by simp [hname])] at h
      cases h
      cases c <;> first | rfl | cases hname
    | true =>
      rw [List.find?_cons_of_neg (by simp [hname])] at h
      cases name with
      | text s => rw [ih h]; rfl
      | _ => cases hname

/-- The first label that is no text. -/
def firstOther? (labels : List Label) : Option Label := labels.find? fun l => !l.cell.isText

theorem firstOther?_eq_none {labels : List Label} :
    firstOther? labels = none ↔ AllTexts labels := by
  simp [firstOther?, AllTexts]

theorem find?_of_firstOther? {labels : List Label} {l : Label} (h : firstOther? labels = some l) :
    (labels.map (·.cell)).find? (fun c => !c.isText) = some l.cell := by
  rw [List.find?_map]
  exact Option.map_eq_some_iff.mpr ⟨l, h, rfl⟩

theorem exists_texts_of_allTexts {labels : List Label} (h : AllTexts labels) :
    ∃ texts : List String, labels.map (·.cell) = texts.map .text := by
  induction labels with
  | nil => exact ⟨[], rfl⟩
  | cons l labels ih =>
    obtain ⟨hl, h⟩ := List.forall_mem_cons.mp h
    obtain ⟨texts, htexts⟩ := ih h
    rcases l with ⟨c, key, hkey⟩
    cases c with
    | text s => exact ⟨s :: texts, by rw [List.map_cons, htexts]; rfl⟩
    | _ => cases hl

variable {question : String}

/-- A question that reads no names has a plan over any. -/
theorem ofQuestion_of_not_looksAtNames (hdigits : DigitsWithin maxDigits question.toList)
    (hlooks : looksAtNames question = false) (names : List Cell) :
    ∃ p, Plan.ofQuestion question names = .ok p := by
  simp only [looksAtNames, Bool.or_eq_false_iff, Bool.not_eq_false', Option.isSome_eq_false_iff,
    Option.isNone_iff_eq_none] at hlooks
  have hsort : sortOf (normalized question) names = .ok none := by
    simp [sortOf, hlooks.2]
  have hcolumns : columnsOf (normalized question) names = .ok [] := by
    simp [columnsOf, hlooks.1]
  unfold Plan.ofQuestion
  exact ⟨_, bind_eq_ok.mpr ⟨_, limitOf_eq_ok hdigits, bind_eq_ok.mpr
    ⟨none, hsort, bind_eq_ok.mpr ⟨[], hcolumns, rfl⟩⟩⟩⟩

/-- The first name that is no text is the fault of a plan that reads the names. -/
theorem ofQuestion_of_find? (hdigits : DigitsWithin maxDigits question.toList)
    (hlooks : looksAtNames question = true) {names : List Cell} {c : Cell}
    (hc : names.find? (fun c => !c.isText) = some c) :
    Plan.ofQuestion question names = .error (.lacks c.kindName "lower") := by
  have hnames := mapM_nameText_of_find? hc
  unfold Plan.ofQuestion
  simp only [limitOf_eq_ok hdigits, bind, Except.bind]
  rcases hsort : sortPhrase? (normalized question) with - | ⟨phrase, direction⟩
  · have hall : asksForAll (normalized question) = false := by
      simpa [looksAtNames, hsort] using hlooks
    simp [sortOf, hsort, columnsOf, hall, hnames, bind, Except.bind]
  · simp [sortOf, hsort, hnames, bind, Except.bind]

variable {schema : List Descriptor} {labels : List Label}

theorem planStatement_of_firstOther? (hschema : schema.map (·.column) = labels.map (·.cell))
    (hdigits : DigitsWithin maxDigits question.toList) (hlooks : looksAtNames question = true)
    {l : Label} (hl : firstOther? labels = some l) :
    planStatement (.text question) schema = .error (.lacks l.cell.kindName "lower") := by
  have hplan := ofQuestion_of_find? hdigits hlooks (find?_of_firstOther? hl)
  simp [planStatement, questionText, hschema, hplan, bind, Except.bind]

/-- There is a statement exactly when no name is read, or all names are texts. -/
theorem planStatement_eq_ok_iff (hschema : schema.map (·.column) = labels.map (·.cell))
    (hdigits : DigitsWithin maxDigits question.toList) :
    (∃ sql, planStatement (.text question) schema = .ok sql) ↔
      (looksAtNames question = true → AllTexts labels) := by
  constructor
  · rintro ⟨sql, hsql⟩ hlooks
    rw [← firstOther?_eq_none]
    rcases hl : firstOther? labels with - | l
    · rfl
    · rw [planStatement_of_firstOther? hschema hdigits hlooks hl] at hsql
      cases hsql
  · intro h
    have hplan : ∃ p, Plan.ofQuestion question (schema.map (·.column)) = .ok p := by
      cases hlooks : looksAtNames question with
      | false => exact ofQuestion_of_not_looksAtNames hdigits hlooks _
      | true =>
        obtain ⟨texts, htexts⟩ := exists_texts_of_allTexts (h hlooks)
        rw [hschema, htexts]
        exact ofQuestion_eq_ok_of_texts texts hdigits
    obtain ⟨p, hp⟩ := hplan
    exact ⟨_, planStatement_eq_ok.mpr ⟨question, p, rfl, hp, rfl⟩⟩

end Question

theorem columns_describe_take (t : Table) (count : Nat) :
    (t.describe.take count).map (·.column) = (t.columns.take count).map (·.cell) := by
  rw [List.map_take, columns_describe, List.map_take]

/-! ## Questions over a data file -/

namespace Assistant

/-- Without a model the rules translate. -/
theorem translatorOf_of_not_asks (model : Request → Reply) {t : Translation}
    (h : t.asks = false) (question : Cell) (schema : List Descriptor) :
    translatorOf model t question schema = (planStatement question schema).map .text := by
  rw [translatorOf, translateOrPlan_of_not_asks model h]

/-- A report says nothing of a translation. -/
theorem report_ne_untranslated {s : Setup} {question statement : Cell} {origin : Origin}
    {rows : List Row} {fault : Fault} :
    report s question statement origin rows ≠ .error (untranslated fault) := by
  unfold report analyze
  cases compose s.time question statement rows origin.source with
  | ok envelope => nofun
  | error other => simp [untranslated, internal]

variable {s : Setup} {a : Assistant} {question : Cell} {path : String} {table : Table}

theorem submit_of_translator_error (h : AskedOfFile s question a path table) {fault : Fault}
    (ht : s.translator question (table.describe.take maxDescriptors) = .error fault) :
    (a.submit s question).1 = .error (untranslated fault) := by
  rw [(Course.untranslated h.given (.file h.file h.loaded) ht).submit_eq]

theorem submit_of_translator_ok (h : AskedOfFile s question a path table) {statement : Cell}
    (ht : s.translator question (table.describe.take maxDescriptors) = .ok statement) :
    (a.submit s question).1 =
      report s question statement (.file path table) (execute statement table) := by
  rw [(Course.fileAnswered h.given (.file h.file h.loaded) ht).submit_eq]

/-- **Which files can be asked about.** The columns of a loaded file are called by texts exactly
when the header of its sheet, if it comes from a workbook, holds no other names. A question has a
statement over the columns exactly when it reads no names, or all are texts. When the rules
translate, the same is asked of the columns that they are shown: either the statement is executed,
or the first name that is no text is the fault for which the question fails. -/
theorem loaded_asked_iff {disk : Disk} {path question : String} {table : Table}
    (hload : loadTable disk path = .ok table) (hdigits : DigitsWithin maxDigits question.toList) :
    (AllTexts table.columns ↔ ∀ sheets, reader? path = some .workbook →
      disk.read path = .ok (.workbook sheets) →
      AllTexts ((sheetHeader sheets).filterMap sheetName)) ∧
    ((∃ sql, planStatement (.text question) table.describe = .ok sql) ↔
      (looksAtNames question = true → AllTexts table.columns)) ∧
    ∀ (s : Setup) (a : Assistant) (model : Request → Reply) (t : Translation),
      t.asks = false → s.translator = translatorOf model t →
      AskedOfFile s (.text question) a path table →
      ((∃ fault, (a.submit s (.text question)).1 = .error (untranslated fault)) ↔
        looksAtNames question = true ∧ ¬ AllTexts (table.columns.take maxDescriptors)) ∧
      (∀ l, looksAtNames question = true →
        firstOther? (table.columns.take maxDescriptors) = some l →
        (a.submit s (.text question)).1 = .error (untranslated (.lacks l.cell.kindName "lower"))) ∧
      ((looksAtNames question = true → AllTexts (table.columns.take maxDescriptors)) →
        ∃ sql, planStatement (.text question) (table.describe.take maxDescriptors) = .ok sql ∧
          (a.submit s (.text question)).1 = report s (.text question) (.text sql)
            (.file path table) (execute (.text sql) table)) := by
  have hshown := columns_describe_take table maxDescriptors
  refine ⟨allTexts_columns_iff hload, planStatement_eq_ok_iff (columns_describe table) hdigits,
    fun s a model t hasks htranslator hasked => ?_⟩
  have htranslate : s.translator (.text question) (table.describe.take maxDescriptors) =
      (planStatement (.text question) (table.describe.take maxDescriptors)).map .text := by
    rw [htranslator, translatorOf_of_not_asks model hasks]
  have hfails : ∀ l, looksAtNames question = true →
      firstOther? (table.columns.take maxDescriptors) = some l →
      (a.submit s (.text question)).1 =
        .error (untranslated (.lacks l.cell.kindName "lower")) := by
    intro l hlooks hl
    refine submit_of_translator_error hasked ?_
    rw [htranslate, planStatement_of_firstOther? hshown hdigits hlooks hl]
    rfl
  have hanswers : (looksAtNames question = true → AllTexts (table.columns.take maxDescriptors)) →
      ∃ sql, planStatement (.text question) (table.describe.take maxDescriptors) = .ok sql ∧
        (a.submit s (.text question)).1 = report s (.text question) (.text sql)
          (.file path table) (execute (.text sql) table) := by
    intro h
    obtain ⟨sql, hsql⟩ := (planStatement_eq_ok_iff hshown hdigits).mpr h
    refine ⟨sql, hsql, submit_of_translator_ok hasked ?_⟩
    rw [htranslate, hsql]
    rfl
  refine ⟨⟨?_, ?_⟩, hfails, hanswers⟩
  · rintro ⟨fault, hfault⟩
    by_contra hcontra
    obtain ⟨sql, -, hreport⟩ := hanswers fun hlooks => by
      by_contra htexts
      exact hcontra ⟨hlooks, htexts⟩
    exact report_ne_untranslated (hreport.symm.trans hfault)
  · rintro ⟨hlooks, htexts⟩
    rcases hl : firstOther? (table.columns.take maxDescriptors) with - | l
    · exact absurd (firstOther?_eq_none.mp hl) htexts
    · exact ⟨_, hfails l hlooks hl⟩

/-! ## A column that is called by a year -/

/-- A workbook whose first column is called by a number. -/
def yearDisk : Disk := ⟨"/", [("/uploads/book.xlsx",
  .file (.workbook [[[.int 2024, .text "name"], [.int 1, .text "x"]]]))]⟩

/-- The rules alone. -/
def rulesAlone : Translation := ⟨false, none, none, none⟩

/-- A setup without a model. -/
def ruleSetup : Setup :=
  { sampleSetup with translator := translatorOf (fun _ => .refused) rulesAlone }

theorem exists_yearTable : ∃ table, loadTable yearDisk "/uploads/book.xlsx" = .ok table ∧
    table.columns.map (·.cell) = [.int 2024, .text "name"] ∧
    (table.columns.take maxDescriptors).map (·.cell) = [.int 2024, .text "name"] :=
  ⟨_, rfl, rfl, rfl⟩

theorem askedOfFile_yearDisk {table : Table}
    (hload : loadTable yearDisk "/uploads/book.xlsx" = .ok table) (question : String)
    (hblank : isBlank (.text question) = false) :
    AskedOfFile ruleSetup (.text question) (start yearDisk) "/uploads/book.xlsx" table :=
  ⟨hblank, by decide +kernel, hload⟩

/-- Everything can be asked for over the two columns, but a name cannot. -/
theorem loaded_asked_yearDisk :
    ∃ table, loadTable yearDisk "/uploads/book.xlsx" = .ok table ∧
      DigitsWithin maxDigits "show all".toList ∧ DigitsWithin maxDigits "show name".toList ∧
      rulesAlone.asks = false ∧
      AskedOfFile ruleSetup (.text "show all") (start yearDisk) "/uploads/book.xlsx" table ∧
      AskedOfFile ruleSetup (.text "show name") (start yearDisk) "/uploads/book.xlsx" table ∧
      (∃ sql, planStatement (.text "show all") table.describe = .ok sql) ∧
      (∃ sql, ((start yearDisk).submit ruleSetup (.text "show all")).1 = report ruleSetup
        (.text "show all") (.text sql) (.file "/uploads/book.xlsx" table)
          (execute (.text sql) table)) ∧
      ∃ fault, ((start yearDisk).submit ruleSetup (.text "show name")).1 =
        .error (untranslated fault) := by
  obtain ⟨table, hload, -, hshown⟩ := exists_yearTable
  have hall : DigitsWithin maxDigits "show all".toList := .of_length (by decide)
  have hname : DigitsWithin maxDigits "show name".toList := .of_length (by decide)
  have haskedAll := askedOfFile_yearDisk hload "show all" (by decide +kernel)
  have haskedName := askedOfFile_yearDisk hload "show name" (by decide +kernel)
  have hlooks : looksAtNames "show all" = false := by decide +kernel
  have hothers : ¬ AllTexts (table.columns.take maxDescriptors) := by
    intro htexts
    have hcells : ∀ c ∈ (table.columns.take maxDescriptors).map (·.cell), c.isText = true :=
      List.forall_mem_map.mpr htexts
    rw [hshown] at hcells
    cases hcells _ List.mem_cons_self
  obtain ⟨-, hplan, hsubmit⟩ := loaded_asked_iff hload hall
  obtain ⟨-, -, hanswer⟩ := hsubmit ruleSetup _ _ rulesAlone rfl rfl haskedAll
  obtain ⟨sql, -, hreport⟩ := hanswer fun h => by simp [hlooks] at h
  obtain ⟨-, -, hsubmitName⟩ := loaded_asked_iff hload hname
  obtain ⟨hfails, -, -⟩ := hsubmitName ruleSetup _ _ rulesAlone rfl rfl haskedName
  exact ⟨table, hload, hall, hname, rfl, haskedAll, haskedName,
    hplan.mpr fun h => by simp [hlooks] at h, ⟨sql, hreport⟩,
    hfails.mpr ⟨by decide +kernel, hothers⟩⟩

/-- A number has no small letters, so that a name cannot be asked for beside it. -/
theorem submit_yearDisk :
    ∃ table, loadTable yearDisk "/uploads/book.xlsx" = .ok table ∧
      DigitsWithin maxDigits "show name".toList ∧ isBlank (.text "show name") = false ∧
      (∀ sql, planStatement (.text "show name") table.describe ≠ .ok sql) ∧
      ((start yearDisk).submit ruleSetup (.text "show name")).1 =
        .error (untranslated (.lacks "int" "lower")) := by
  obtain ⟨table, hload, hcolumns, hshown⟩ := exists_yearTable
  have hdigits : DigitsWithin maxDigits "show name".toList := .of_length (by decide)
  have hplan {schema : List Descriptor}
      (hschema : schema.map (·.column) = [.int 2024, .text "name"]) :
      planStatement (.text "show name") schema = .error (.lacks "int" "lower") := by
    have hp := ofQuestion_of_find? hdigits (by decide +kernel) (c := .int 2024)
      (show [Cell.int 2024, .text "name"].find? (fun c => !c.isText) = some (.int 2024) from rfl)
    simp [planStatement, questionText, hschema, hp, bind, Except.bind, Cell.kindName]
  refine ⟨table, hload, hdigits, by decide +kernel, fun sql hsql => ?_, ?_⟩
  · rw [hplan (by rw [columns_describe, hcolumns])] at hsql
    cases hsql
  · refine submit_of_translator_error (askedOfFile_yearDisk hload _ (by decide +kernel)) ?_
    refine (translatorOf_of_not_asks (fun _ => .refused) (t := rulesAlone) rfl _ _).trans ?_
    rw [hplan (by rw [columns_describe_take, hshown])]
    rfl

end Assistant

end AskTable

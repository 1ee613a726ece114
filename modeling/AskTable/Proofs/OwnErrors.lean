import AskTable.Proofs.Breakage
import AskTable.Proofs.Failures

/-!
# Own errors

A question should end with an outcome or with an error of the assistant. Whatever goes wrong with
the data file, with the translation or with the analysis becomes such an error, but not what breaks
on the way to the warehouse.

* `Reading`, `submitWith`: data files may be read in any way, with any fault;
  `submit_eq_submitWith`: the reading of the assistant is one of them.
* `Unexpected`: the faults that become internal errors; `submitWith_of_unexpected` and
  `unexpected_of_submitWith`: these and no others do.
* `PassedOn`: what broke on the way to the warehouse; `submitWith_eq_fault_iff`: this and nothing
  else is passed on.
* `Explained`, `explained_of_submitWith`: every failure of a question is of a kind that is known.
* `submitWith_own_iff`: when a question ends with an outcome or an own error.
-/

namespace AskTable.Assistant

open AskTable.File AskTable.Inquiry AskTable.Report AskTable.Statement AskTable.Warehouse

/-! ## Any reading of data files -/

/-- A way to read the rows of the file at a path. -/
abbrev Reading := Disk → String → Except Fault (List Row)

/-- A file without rows. -/
def emptyFile (path : String) : Failure := .own
  { kind := .emptySource, message := "Data file is empty", details := some (baseName path) }

/-- The table of a file whose rows were read. -/
def tableOf (path : String) : Except Fault (List Row) → Except Failure Table
  | .error fault => .error (.fault fault)
  | .ok [] => .error (emptyFile path)
  | .ok rows => .ok ⟨rows⟩

/-- Answers a question when data files are read in some way. -/
def submitWith (s : Setup) (read : Reading) (question : Cell) (a : Assistant) :
    Except Failure QueryOutcome × Assistant :=
  if isBlank question then (.error blankQuestion, a)
  else match dataFile? a.disk s.uploads with
    | none => a.submit s question
    | some path =>
      match tableOf path (read a.disk path) with
      | .error failure => (.error (unread failure), a)
      | .ok table => (Inquiry.located question (.file path table) table.describe).finish s
          (a.mark (.file path table))

variable {s : Setup} {read : Reading} {question : Cell} {a b : Assistant} {path : String}

theorem loadTable_eq_tableOf (disk : Disk) (path : String) :
    loadTable disk path = tableOf path (readRows disk path) := by
  unfold loadTable
  rcases readRows disk path with fault | rows
  · rfl
  · cases rows <;> rfl

/-- The assistant answers questions with its own reading of data files. -/
theorem submit_eq_submitWith (s : Setup) (question : Cell) (a : Assistant) :
    a.submit s question = a.submitWith s readRows question := by
  have hcourse := submit_course s question a
  unfold submitWith
  by_cases hblank : isBlank question = true
  · rw [if_pos hblank]
    exact (Course.blank hblank).submit_eq
  · rw [if_neg hblank]
    rw [Bool.not_eq_true] at hblank
    rcases hfile : dataFile? a.disk s.uploads with - | path
    · rfl
    · simp only
      rw [← loadTable_eq_tableOf]
      rcases hload : loadTable a.disk path with failure | table
      · exact (Course.unread hblank hfile hload).submit_eq
      · exact (Located.file hfile hload).submit_eq hblank

theorem submitWith_of_noFile (read : Reading) (hblank : isBlank question = false)
    (hfile : dataFile? a.disk s.uploads = none) :
    a.submitWith s read question = a.submit s question := by
  rw [submitWith, if_neg (by simp [hblank]), hfile]

/-! ## Data files -/

/-- How a question over a table ends. -/
def tableResult (s : Setup) (question : Cell) (path : String) (table : Table) :
    Except Failure QueryOutcome :=
  match s.translator question (table.describe.take maxDescriptors) with
  | .error fault => .error (untranslated fault)
  | .ok statement => report s question statement (.file path table) (execute statement table)

theorem finish_table (s : Setup) (question : Cell) (path : String) (table : Table)
    (b : Assistant) :
    ((Inquiry.located question (.file path table) table.describe).finish s b).1 =
      tableResult s question path table := by
  rw [Inquiry.finish, tableResult]
  simp only [step, Inquiry.translate, consult]
  rcases s.translator question (table.describe.take maxDescriptors) with fault | statement
  · rw [Inquiry.finish]
    rfl
  · simp only
    rw [Inquiry.finish]
    simp only [step, answer]
    rw [Inquiry.finish]

/-- How a question over a data file ends. -/
theorem submitWith_of_file (hblank : isBlank question = false)
    (hfile : dataFile? a.disk s.uploads = some path) :
    (a.submitWith s read question).1 =
      match tableOf path (read a.disk path) with
      | .error failure => .error (unread failure)
      | .ok table => tableResult s question path table := by
  rw [submitWith, if_neg (by simp [hblank]), hfile]
  simp only
  rcases tableOf path (read a.disk path) with failure | table
  · rfl
  · exact finish_table s question path table _

/-! ## Internal errors -/

/-- The data that a question is about is found, with its columns and the warehouse then. -/
inductive Found (s : Setup) (read : Reading) (a : Assistant) :
    Origin → List Descriptor → Warehouse → Prop
  | file {path : String} {rows : List Row} : dataFile? a.disk s.uploads = some path →
      read a.disk path = .ok rows → rows ≠ [] →
      Found s read a (.file path ⟨rows⟩) (Table.describe ⟨rows⟩) a.warehouse
  | warehouse {c : Nat} {schema : List Descriptor} {w : Warehouse} :
      dataFile? a.disk s.uploads = none → a.warehouse.current = some c →
      describe s.service a.warehouse = (.ok schema, w) → Found s read a .warehouse schema w

/-- The rows that a statement gives where its data is. -/
inductive Fetched (s : Setup) (statement : Cell) : Origin → Warehouse → List Row → Prop
  | file {path : String} {table : Table} {w : Warehouse} :
      Fetched s statement (.file path table) w (execute statement table)
  | warehouse {rows : List Row} {w v : Warehouse} :
      send s.service (.plain statement) w = (.ok rows, v) → Fetched s statement .warehouse w rows

/-- A fault on the way to an answer, with what an internal error says of it. -/
inductive Unexpected (s : Setup) (read : Reading) (question : Cell) (a : Assistant) :
    String → Fault → Prop
  | reading {path : String} {fault : Fault} : isBlank question = false →
      dataFile? a.disk s.uploads = some path → read a.disk path = .error fault →
      Unexpected s read question a "Failed to process data file" fault
  | translating {origin : Origin} {schema : List Descriptor} {w : Warehouse} {fault : Fault} :
      isBlank question = false → Found s read a origin schema w →
      s.translator question (schema.take maxDescriptors) = .error fault →
      Unexpected s read question a "Failed to generate SQL" fault
  | analysing {origin : Origin} {schema : List Descriptor} {w : Warehouse} {statement : Cell}
      {rows : List Row} {fault : Fault} : isBlank question = false →
      Found s read a origin schema w →
      s.translator question (schema.take maxDescriptors) = .ok statement →
      Fetched s statement origin w rows →
      compose s.time question statement rows origin.source = .error fault →
      Unexpected s read question a "Failed to process query results" fault

/-- A report fails only with an internal error. -/
theorem report_eq_error_iff {statement : Cell} {origin : Origin} {rows : List Row}
    {failure : Failure} :
    report s question statement origin rows = .error failure ↔
      ∃ fault, compose s.time question statement rows origin.source = .error fault ∧
        failure = internal "Failed to process query results" fault.message := by
  simp only [report, analyze]
  rcases compose s.time question statement rows origin.source with fault | e
  · simp [internal, eq_comm]
  · simp

theorem tableOf_of_ne_nil {rows : List Row} (h : rows ≠ []) :
    tableOf path (.ok rows) = .ok ⟨rows⟩ := by
  cases rows with
  | nil => exact absurd rfl h
  | cons => rfl

/-- The faults on the way to an answer become internal errors, wherever the data is. -/
theorem submitWith_of_unexpected {message : String} {fault : Fault}
    (h : Unexpected s read question a message fault) :
    (a.submitWith s read question).1 = .error (internal message fault.message) := by
  cases h with
  | reading hblank hfile hread =>
    rw [submitWith_of_file hblank hfile, hread]
    rfl
  | translating hblank hfound ht =>
    cases hfound with
    | file hfile hread hrows =>
      rw [submitWith_of_file hblank hfile, hread, tableOf_of_ne_nil hrows]
      simp only [tableResult, ht]
      rfl
    | warehouse hfile hc hd =>
      have hcourse := Course.untranslated hblank (.warehouse hfile hc hd) ht
      rw [submitWith_of_noFile read hblank hfile, hcourse.submit_eq]
      rfl
  | analysing hblank hfound ht hrows hcompose =>
    have hreport := report_eq_error_iff.mpr ⟨_, hcompose, rfl⟩
    cases hfound with
    | file hfile hread hne =>
      cases hrows
      rw [submitWith_of_file hblank hfile, hread, tableOf_of_ne_nil hne]
      simp only [tableResult, ht]
      exact hreport
    | warehouse hfile hc hd =>
      cases hrows with
      | warehouse hs =>
        have hcourse := Course.remoteAnswered hblank (.warehouse hfile hc hd) ht hs
        rw [submitWith_of_noFile read hblank hfile, hcourse.submit_eq]
        exact hreport

/-! ## Errors that are passed on -/

/-- An error is passed on: the question goes to the warehouse, and there a login or a command raises
it that the question makes, or a login is due whose time is no number. -/
structure PassedOn (s : Setup) (question : Cell) (a : Assistant) (fault : Fault) : Prop where
  remote : AskedOfWarehouse s question a
  raised : Broke s.service.connector a.warehouse (a.submit s question).2.warehouse fault ∨
    Untimed s.service a.warehouse fault

/-- How a question may fail: with an own error that is no internal one, with an unexpected fault, or
with an error that is passed on. -/
inductive Explained (s : Setup) (read : Reading) (question : Cell) (a : Assistant) :
    Failure → Prop
  | own {e : AssistantError} : e.kind ≠ .internalProcessing →
      Explained s read question a (.own e)
  | unexpected {message : String} {fault : Fault} : Unexpected s read question a message fault →
      Explained s read question a (internal message fault.message)
  | passedOn {fault : Fault} : PassedOn s question a fault →
      Explained s read question a (.fault fault)

/-- Over a data file no error is passed on. -/
theorem explained_of_file {failure : Failure} (hblank : isBlank question = false)
    (hfile : dataFile? a.disk s.uploads = some path)
    (h : (a.submitWith s read question).1 = .error failure) :
    Explained s read question a failure := by
  rcases hread : read a.disk path with fault | rows
  · have hunexpected := Unexpected.reading hblank hfile hread
    rw [submitWith_of_unexpected hunexpected] at h
    cases h
    exact .unexpected hunexpected
  rw [submitWith_of_file hblank hfile, hread] at h
  by_cases hrows : rows = []
  · rw [hrows] at h
    cases h
    exact .own (by simp)
  rw [tableOf_of_ne_nil hrows] at h
  have hfound : Found s read a _ _ _ := .file hfile hread hrows
  simp only [tableResult] at h
  rcases ht : s.translator question ((Table.describe ⟨rows⟩).take maxDescriptors) with
    fault | statement
  · rw [ht] at h
    cases h
    exact .unexpected (.translating hblank hfound ht)
  · rw [ht] at h
    obtain ⟨fault, hcompose, rfl⟩ := report_eq_error_iff.mp h
    exact .unexpected (.analysing hblank hfound ht .file hcompose)

/-- In the warehouse an error is passed on exactly if it was raised there, and every other failure
is one that the warehouse reports or an unexpected fault. -/
theorem submit_remote_cases (read : Reading) (h : AskedOfWarehouse s question a) :
    (∀ fault, (a.submit s question).1 = .error (.fault fault) ↔
      Broke s.service.connector a.warehouse (a.submit s question).2.warehouse fault ∨
        Untimed s.service a.warehouse fault) ∧
    ∀ failure, (a.submit s question).1 = .error failure →
      IsRemote failure ∨ ∃ message fault, Unexpected s read question a message fault ∧
        failure = internal message fault.message := by
  obtain ⟨c, hc⟩ := h.exists_current
  have hdescribe := describe_tells (s := s.service) hc
  have hcourse := submit_course s question a
  generalize (a.submit s question).1 = result at hcourse
  generalize (a.submit s question).2 = b at hcourse
  cases hcourse with
  | blank hblank => simp [h.given] at hblank
  | unread _ hfile => simp [h.noFile] at hfile
  | advised _ _ hnone => simp [hc] at hnone
  | undescribed _ _ _ hd =>
    rw [hd] at hdescribe
    refine ⟨hdescribe.of_error.fault_iff, fun failure hf => ?_⟩
    cases hf
    exact Or.inl (hdescribe.isRemote _ rfl)
  | untranslated hblank hl ht =>
    cases hl with
    | file hfile => simp [h.noFile] at hfile
    | warehouse hfile _ hd =>
      rw [hd] at hdescribe
      refine ⟨hdescribe.fault_iff_of_ok fun fault hf => ?_, fun failure hf => ?_⟩
      · cases hf
      · cases hf
        exact Or.inr ⟨_, _, .translating hblank (.warehouse hfile hc hd) ht, rfl⟩
  | fileAnswered _ hl =>
    cases hl with
    | file hfile => simp [h.noFile] at hfile
  | @refused _ _ statement _ _ hblank hl ht hs =>
    cases hl with
    | warehouse hfile _ hd =>
      have hsent := describe_send_tells hc hd (.plain statement)
      have hrefused := hs ▸ hsent
      refine ⟨hrefused.of_error.fault_iff, fun failure hf => ?_⟩
      cases hf
      exact Or.inl (hrefused.isRemote _ rfl)
  | @remoteAnswered _ _ statement rows _ hblank hl ht hs =>
    cases hl with
    | warehouse hfile _ hd =>
      have hsent := describe_send_tells hc hd (.plain statement)
      have hanswered := hs ▸ hsent
      refine ⟨hanswered.fault_iff_of_ok fun fault hf => ?_, fun failure hf => ?_⟩
      · obtain ⟨_, -, hinternal⟩ := report_eq_error_iff.mp hf
        cases hinternal
      · obtain ⟨fault, hcompose, rfl⟩ := report_eq_error_iff.mp hf
        exact Or.inr ⟨_, _, .analysing hblank (.warehouse hfile hc hd) ht (.warehouse hs) hcompose,
          rfl⟩

/-- Every failure of a question is explained. -/
theorem explained_of_submitWith {failure : Failure}
    (h : (a.submitWith s read question).1 = .error failure) :
    Explained s read question a failure := by
  by_cases hblank : isBlank question = true
  · rw [submitWith, if_pos hblank] at h
    cases h
    exact .own (by decide)
  rw [Bool.not_eq_true] at hblank
  rcases hfile : dataFile? a.disk s.uploads with - | path
  · rw [submitWith_of_noFile read hblank hfile] at h
    rcases hc : a.warehouse.current with - | c
    · rw [(Course.advised hblank hfile hc).submit_eq] at h
      cases h
    · have hasked : AskedOfWarehouse s question a :=
        ⟨hblank, hfile, by rw [wasConnected, hc, Option.isSome_some]⟩
      obtain ⟨hfault, hfailure⟩ := submit_remote_cases read hasked
      rcases hfailure failure h with hremote | ⟨message, fault, hunexpected, rfl⟩
      · cases hremote with
        | auth he => exact .own (by rw [he]; decide)
        | execution he => exact .own (by rw [he]; decide)
        | passed fault => exact .passedOn ⟨hasked, (hfault fault).mp h⟩
      · exact .unexpected hunexpected
  · exact explained_of_file hblank hfile h

/-- **An error is passed on** exactly if it breaks on the way to the warehouse. -/
theorem submitWith_eq_fault_iff (read : Reading) (fault : Fault) :
    (a.submitWith s read question).1 = .error (.fault fault) ↔ PassedOn s question a fault := by
  constructor
  · intro h
    cases explained_of_submitWith h with
    | passedOn hpassed => exact hpassed
  · rintro ⟨hremote, hraised⟩
    rw [submitWith_of_noFile read hremote.given hremote.noFile]
    exact ((submit_remote_cases read hremote).1 fault).mpr hraised

/-- An internal error tells of an unexpected fault. -/
theorem unexpected_of_submitWith {e : AssistantError}
    (h : (a.submitWith s read question).1 = .error (.own e)) (he : e.kind = .internalProcessing) :
    ∃ message fault, Unexpected s read question a message fault ∧
      Failure.own e = internal message fault.message := by
  generalize hf : Failure.own e = failure at h ⊢
  cases explained_of_submitWith h with
  | own hkind =>
    cases hf
    exact absurd he hkind
  | unexpected hunexpected => exact ⟨_, _, hunexpected, rfl⟩
  | passedOn => cases hf

/-- **Own errors.** However data files are read, whatever the translator and the warehouse do, and
whatever was done before: a question ends with an outcome or an own error exactly if no error is
passed on. The errors that are passed on are those that break on the way to the warehouse. Any other
unexpected fault becomes an internal error with its text, in the same way for data files and for the
warehouse, and no internal error comes from anything else. -/
theorem submitWith_own_iff (s : Setup) (read : Reading) (question : Cell) (a : Assistant) :
    (((∃ o, (a.submitWith s read question).1 = .ok o) ∨
        ∃ e, (a.submitWith s read question).1 = .error (.own e)) ↔
      ∀ fault, ¬ PassedOn s question a fault) ∧
    (∀ fault, (a.submitWith s read question).1 = .error (.fault fault) ↔
      PassedOn s question a fault) ∧
    (∀ message fault, Unexpected s read question a message fault →
      (a.submitWith s read question).1 = .error (internal message fault.message)) ∧
    (∀ e, (a.submitWith s read question).1 = .error (.own e) → e.kind = .internalProcessing →
      ∃ message fault, Unexpected s read question a message fault ∧
        Failure.own e = internal message fault.message) ∧
    a.submit s question = a.submitWith s readRows question := by
  refine ⟨?_, submitWith_eq_fault_iff read, fun _ _ => submitWith_of_unexpected,
    fun _ => unexpected_of_submitWith, submit_eq_submitWith s question a⟩
  constructor
  · intro hown fault hpassed
    rw [← submitWith_eq_fault_iff read] at hpassed
    rcases hown with ⟨o, ho⟩ | ⟨e, he⟩
    · rw [ho] at hpassed
      cases hpassed
    · rw [he] at hpassed
      cases hpassed
  · intro hnone
    rcases hr : (a.submitWith s read question).1 with failure | o
    · cases explained_of_submitWith hr with
      | own => exact Or.inr ⟨_, rfl⟩
      | unexpected => exact Or.inr ⟨_, rfl⟩
      | passedOn hpassed => exact absurd hpassed (hnone _)
    · exact Or.inl ⟨o, rfl⟩

/-- A setup whose warehouse breaks off when it is asked for its schema. -/
def resetting : Setup :=
  { sampleSetup with
    service := ⟨sampleSetup.service.config, ⟨fun _ => .ok (), fun _ command =>
      if command.parameters.isSome then .error (.broken "RuntimeError" "connection reset")
      else .ok []⟩⟩ }

/-- The assistant has connected. -/
def connected : Assistant := (start ⟨"/", []⟩).perform resetting .connect

/-- An error that the warehouse does not report reaches the caller as it is. -/
theorem submit_resetting :
    Reachable (fun s => s = resetting) connected ∧
      (connected.submit resetting (.text "show name")).1 =
        .error (.fault (.raised "RuntimeError" "connection reset")) ∧
      ¬ ((∃ o, (connected.submit resetting (.text "show name")).1 = .ok o) ∨
        ∃ e, (connected.submit resetting (.text "show name")).1 = .error (.own e)) := by
  have hreach : Reachable (fun s => s = resetting) connected := .step .connect rfl (.start _)
  have hcurrent : connected.warehouse.current = some 0 := by decide +kernel
  have hensure : ensureConnected resetting.service connected.warehouse =
      (.ok (), connected.warehouse) := by
    rw [ensureConnected, if_pos (by decide +kernel), connect, if_pos (by decide +kernel)]
  have hdescribe : describe resetting.service connected.warehouse =
      (.error (.fault (.raised "RuntimeError" "connection reset")),
        connected.warehouse.deliver [⟨0, catalogCommand none, false⟩]) := by
    rw [describe, hensure]
    simp only [send_of_current hcurrent]
    rw [sendOn_of_error rfl]
    rfl
  have hcourse : Course resetting (.text "show name") connected _ _ :=
    .undescribed (by decide +kernel) (by decide +kernel) hcurrent hdescribe
  rw [hcourse.submit_eq]
  refine ⟨hreach, rfl, ?_⟩
  rintro (⟨o, ho⟩ | ⟨e, he⟩)
  · cases ho
  · cases he

end AskTable.Assistant

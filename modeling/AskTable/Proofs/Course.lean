import AskTable.Assistant.Inquiry

/-!
# The course of a question

An inquiry takes at most three stages, and each may end it. This module says once what becomes of a
question, so that nothing else has to follow the stages.

* `loadTable_eq_error`, `loadTable_eq_ok`: how the loading of a data file ends.
* `report_eq_ok`: a report that succeeds is an answer, and its envelope bears its source.
* `Course`: the ways that a question may take, each with its result and the assistant after it.
* `locate_of_noFile`, `locate_of_error`, `locate_of_ok`: how the looking for the data ends.
* `submit_course`: every question takes one of them.
-/

namespace AskTable

open AskTable.File AskTable.Report AskTable.Statement AskTable.Warehouse

/-! ## Data files -/

/-- Data files are not loaded because they are empty or have a fault. -/
theorem loadTable_eq_error {disk : Disk} {path : String} {failure : Failure}
    (h : loadTable disk path = .error failure) :
    (∃ e, failure = .own e ∧ e.kind = .emptySource) ∨ ∃ fault, failure = .fault fault := by
  unfold loadTable at h
  split at h
  · cases h
    exact Or.inr ⟨_, rfl⟩
  · cases h
    exact Or.inl ⟨_, rfl, rfl⟩
  · cases h

/-- A table that was loaded has rows. -/
theorem loadTable_eq_ok {disk : Disk} {path : String} {table : Table}
    (h : loadTable disk path = .ok table) : table.rows ≠ [] := by
  unfold loadTable at h
  split at h
  · cases h
  · cases h
  · rename_i rows hne _
    cases h
    exact hne

/-! ## Envelopes -/

namespace Inquiry

/-- How a question ends when its data file is not loaded: an empty file is reported as it is. -/
def unread : Failure → Failure
  | .own e => .own e
  | failure => internal "Failed to process data file" failure.text

/-- How a question ends that is not translated. -/
def untranslated (fault : Fault) : Failure := internal "Failed to generate SQL" fault.message

end Inquiry

namespace Assistant

open AskTable.Inquiry

/-- The translator was asked a question over some descriptors. -/
def asked (question : Cell) (shown : List Descriptor) (a : Assistant) : Assistant :=
  { a with consulted := a.consulted ++ [(question, shown)] }

/-- The warehouse has changed. -/
def withWarehouse (w : Warehouse) (a : Assistant) : Assistant := { a with warehouse := w }

/-- The data that a question is about is found, with its columns. -/
inductive Located (s : Setup) (a : Assistant) : Origin → List Descriptor → Assistant → Prop
  | file {path : String} {table : Table} : dataFile? a.disk s.uploads = some path →
      loadTable a.disk path = .ok table →
      Located s a (.file path table) table.describe (a.mark (.file path table))
  | warehouse {c : Nat} {schema : List Descriptor} {w : Warehouse} :
      dataFile? a.disk s.uploads = none → a.warehouse.current = some c →
      describe s.service a.warehouse = (.ok schema, w) →
      Located s a .warehouse schema (a.withWarehouse w)

/-- What becomes of a question: its result, and the assistant after it. -/
inductive Course (s : Setup) (question : Cell) (a : Assistant) :
    Except Failure QueryOutcome → Assistant → Prop
  /-- Nothing is asked. -/
  | blank : isBlank question = true → Course s question a (.error blankQuestion) a
  /-- There is a data file that cannot be loaded. -/
  | unread {path : String} {failure : Failure} : isBlank question = false →
      dataFile? a.disk s.uploads = some path → loadTable a.disk path = .error failure →
      Course s question a (.error (unread failure)) a
  /-- There is neither a file nor a connection. -/
  | advised : isBlank question = false → dataFile? a.disk s.uploads = none →
      a.warehouse.current = none → Course s question a (.ok .advice) (a.mark .idle)
  | undescribed {c : Nat} {failure : Failure} {w : Warehouse} : isBlank question = false →
      dataFile? a.disk s.uploads = none → a.warehouse.current = some c →
      describe s.service a.warehouse = (.error failure, w) →
      Course s question a (.error failure) (a.withWarehouse w)
  | untranslated {origin : Origin} {schema : List Descriptor} {b : Assistant} {fault : Fault} :
      isBlank question = false → Located s a origin schema b →
      s.translator question (schema.take maxDescriptors) = .error fault →
      Course s question a (.error (untranslated fault))
        (b.asked question (schema.take maxDescriptors))
  /-- The data file answers. -/
  | fileAnswered {path : String} {table : Table} {schema : List Descriptor} {b : Assistant}
      {statement : Cell} : isBlank question = false → Located s a (.file path table) schema b →
      s.translator question (schema.take maxDescriptors) = .ok statement →
      Course s question a
        (report s question statement (.file path table) (execute statement table))
        (b.asked question (schema.take maxDescriptors))
  | refused {schema : List Descriptor} {b : Assistant} {statement : Cell} {failure : Failure}
      {w : Warehouse} : isBlank question = false → Located s a .warehouse schema b →
      s.translator question (schema.take maxDescriptors) = .ok statement →
      send s.service (.plain statement) b.warehouse = (.error failure, w) →
      Course s question a (.error failure)
        ((b.asked question (schema.take maxDescriptors)).withWarehouse w)
  /-- The warehouse answers. -/
  | remoteAnswered {schema : List Descriptor} {b : Assistant} {statement : Cell}
      {rows : List Row} {w : Warehouse} : isBlank question = false →
      Located s a .warehouse schema b →
      s.translator question (schema.take maxDescriptors) = .ok statement →
      send s.service (.plain statement) b.warehouse = (.ok rows, w) →
      Course s question a (report s question statement .warehouse rows)
        (((b.asked question (schema.take maxDescriptors)).withWarehouse w).mark .remote)

variable {s : Setup} {question : Cell} {a : Assistant}

/-! ## Looking for the data -/

theorem locate_of_noFile (h : dataFile? a.disk s.uploads = none) :
    locate s question a = locateRemote s question a := by
  simp [locate, acquire, h, noFile]

theorem locate_of_error {path : String} {failure : Failure}
    (h : dataFile? a.disk s.uploads = some path) (hl : loadTable a.disk path = .error failure) :
    locate s question a = (.done (.error (Inquiry.unread failure)), a) := by
  rcases loadTable_eq_error hl with ⟨e, rfl, hkind⟩ | ⟨fault, rfl⟩
  · simp [locate, acquire, h, hl, hkind, Inquiry.unread]
  · simp [locate, acquire, h, hl, Inquiry.unread]

theorem locate_of_ok {path : String} {table : Table}
    (h : dataFile? a.disk s.uploads = some path) (hl : loadTable a.disk path = .ok table) :
    locate s question a =
      (.located question (.file path table) table.describe, a.mark (.file path table)) := by
  simp [locate, acquire, h, hl]

/-! ## Every question takes one of them -/

/-- Without a file, the question ends or its data is found in the warehouse. -/
theorem locateRemote_course (h : isBlank question = false)
    (hfile : dataFile? a.disk s.uploads = none) :
    (∃ result b, locateRemote s question a = (.done result, b) ∧ Course s question a result b) ∨
    ∃ origin schema b, locateRemote s question a = (.located question origin schema, b) ∧
      Located s a origin schema b := by
  unfold locateRemote Warehouse.wasConnected
  rcases hc : a.warehouse.current with - | c
  · exact Or.inl ⟨_, _, by simp, .advised h hfile hc⟩
  · rcases hd : describe s.service a.warehouse with ⟨failure | schema, w⟩
    · exact Or.inl ⟨_, _, by simp [withWarehouse], .undescribed h hfile hc hd⟩
    · exact Or.inr ⟨_, _, _, by simp [withWarehouse], .warehouse hfile hc hd⟩

/-- Looking for the data ends the question, or finds it. -/
theorem locate_course (h : isBlank question = false) :
    (∃ result b, locate s question a = (.done result, b) ∧ Course s question a result b) ∨
    ∃ origin schema b, locate s question a = (.located question origin schema, b) ∧
      Located s a origin schema b := by
  rcases hfile : dataFile? a.disk s.uploads with - | path
  · rw [locate_of_noFile hfile]
    exact locateRemote_course h hfile
  · rcases hload : loadTable a.disk path with failure | table
    · exact Or.inl ⟨_, _, locate_of_error hfile hload, .unread h hfile hload⟩
    · exact Or.inr ⟨_, _, _, locate_of_ok hfile hload, .file hfile hload⟩

/-- A question whose data was found takes one of the ways. -/
theorem finish_located_course (h : isBlank question = false) {origin : Origin}
    {schema : List Descriptor} {b : Assistant} (hl : Located s a origin schema b) :
    Course s question a ((Inquiry.located question origin schema).finish s b).1
      ((Inquiry.located question origin schema).finish s b).2 := by
  rw [Inquiry.finish]
  simp only [step, Inquiry.translate, consult]
  cases ht : s.translator question (schema.take maxDescriptors) with
  | error fault =>
    rw [Inquiry.finish]
    exact .untranslated h hl ht
  | ok statement =>
    simp only
    rw [Inquiry.finish]
    cases origin with
    | file path table =>
      simp only [step, answer]
      rw [Inquiry.finish]
      exact .fileAnswered h hl ht
    | warehouse =>
      simp only [step, answer]
      cases hs : send s.service (.plain statement) b.warehouse with
      | mk reply w =>
        cases reply with
        | error failure =>
          simp only
          rw [Inquiry.finish]
          exact .refused h hl ht hs
        | ok rows =>
          simp only
          rw [Inquiry.finish]
          exact .remoteAnswered h hl ht hs

/-- **Every question takes one of the ways.** -/
theorem submit_course (s : Setup) (question : Cell) (a : Assistant) :
    Course s question a (a.submit s question).1 (a.submit s question).2 := by
  unfold submit
  rw [Inquiry.finish]
  simp only [step]
  by_cases h : isBlank question = true
  · rw [if_pos h, Inquiry.finish]
    exact .blank h
  · rw [if_neg h]
    rw [Bool.not_eq_true] at h
    rcases locate_course h with ⟨result, b, hd, hc⟩ | ⟨origin, schema, b, hd, hl⟩
    · rw [hd, Inquiry.finish]
      exact hc
    · rw [hd]
      exact finish_located_course h hl

end Assistant

end AskTable

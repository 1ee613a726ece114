import AskTable.Assistant.Basic
import AskTable.Statement.Shape

/-!
# Inquiries

A question goes through three stages: its data is found, it is translated, and the statement is
executed. Other inquiries may go on in between.

* `Inquiry`: how far a question has come; `Inquiry.step` takes it on by one stage.
* `stages_step`: every stage brings an inquiry closer to its end.
* `Inquiry.finish`, `Assistant.submit`: an inquiry from its question to its outcome.
* `Assistant.submitAll`: several inquiries, stage by stage.
-/

namespace AskTable

open AskTable.File AskTable.Report AskTable.Statement AskTable.Warehouse

inductive Inquiry where
  | asked (question : Cell)
  /-- The data was found. -/
  | located (question : Cell) (origin : Origin) (schema : List Descriptor)
  /-- The question was translated. -/
  | translated (question : Cell) (origin : Origin) (statement : Cell)
  | done (result : Except Failure QueryOutcome)

namespace Inquiry

/-- Is there nothing asked? -/
def isBlank (question : Cell) : Bool :=
  !question.truthy || (Text.trim question.plainText.toList).isEmpty

def blankQuestion : Failure := .own { kind := .validation, message := "Query is required" }

/-- An unexpected failure on the way to an answer. -/
def internal (message details : String) : Failure := .own
  { kind := .internalProcessing, message, details := some details }

/-- Looks for the data in the warehouse, if there is a connection (`Assistant._remote_query`). -/
def locateRemote (s : Setup) (question : Cell) (a : Assistant) : Inquiry × Assistant :=
  if a.warehouse.wasConnected then
    match describe s.service a.warehouse with
    | (.ok schema, warehouse) => (.located question .warehouse schema, { a with warehouse })
    | (.error failure, warehouse) => (.done (.error failure), { a with warehouse })
  else (.done (.ok .advice), a.mark .idle)

/-- Looks for the data that a question is about: in the data file, or else in the warehouse. -/
def locate (s : Setup) (question : Cell) (a : Assistant) : Inquiry × Assistant :=
  match a.acquire s with
  | (.ok (path, table), a) => (.located question (.file path table) table.describe, a)
  | (.error (.own e), a) =>
    if e.kind == .sourceUnavailable then locateRemote s question a else (.done (.error (.own e)), a)
  | (.error failure, a) => (.done (.error (internal "Failed to process data file" failure.text)), a)

/-- Translates a question over a schema. -/
def translate (s : Setup) (question : Cell) (origin : Origin) (schema : List Descriptor)
    (a : Assistant) : Inquiry × Assistant :=
  match a.consult s question schema with
  | (.ok statement, a) => (.translated question origin statement, a)
  | (.error fault, a) => (.done (.error (internal "Failed to generate SQL" fault.message)), a)

/-- Tells about the rows of an answer. -/
def report (s : Setup) (question statement : Cell) (origin : Origin) (rows : List Row) :
    Except Failure QueryOutcome :=
  match analyze s.time question statement rows origin.source with
  | .ok envelope => .ok (.answered origin envelope)
  | .error e => .error (.own e)

/-- Executes a statement where its data is. -/
def answer (s : Setup) (question : Cell) (origin : Origin) (statement : Cell) (a : Assistant) :
    Inquiry × Assistant :=
  match origin with
  | .file path table =>
    (.done (report s question statement (.file path table) (execute statement table)), a)
  | .warehouse =>
    match send s.service (.plain statement) a.warehouse with
    | (.ok rows, warehouse) =>
      (.done (report s question statement .warehouse rows),
        Assistant.mark .remote { a with warehouse })
    | (.error failure, warehouse) => (.done (.error failure), { a with warehouse })

/-- Takes an inquiry on by one stage. -/
def step (s : Setup) (r : Inquiry) (a : Assistant) : Inquiry × Assistant :=
  match r with
  | .asked question =>
    if isBlank question then (.done (.error blankQuestion), a) else locate s question a
  | .located question origin schema => translate s question origin schema a
  | .translated question origin statement => answer s question origin statement a
  | .done result => (.done result, a)

/-- How many stages are left. -/
def stages : Inquiry → Nat
  | .asked _ => 3
  | .located .. => 2
  | .translated .. => 1
  | .done _ => 0

theorem stages_locateRemote_lt (s : Setup) (question : Cell) (a : Assistant) :
    (locateRemote s question a).1.stages < 3 := by
  unfold locateRemote
  split
  · split <;> simp [stages]
  · simp [stages]

theorem stages_locate_lt (s : Setup) (question : Cell) (a : Assistant) :
    (locate s question a).1.stages < 3 := by
  unfold locate
  split
  · simp [stages]
  · split
    · exact stages_locateRemote_lt s question _
    · simp [stages]
  · simp [stages]

/-- Every stage brings an inquiry closer to its end. -/
theorem stages_step (s : Setup) (r : Inquiry) (a : Assistant) :
    (r.step s a).1.stages ≤ r.stages - 1 := by
  cases r with
  | asked question =>
    simp only [step]
    split
    · simp [stages]
    · exact Nat.le_of_lt_succ (stages_locate_lt s question a)
  | located question origin schema =>
    simp only [step, translate]
    split <;> simp [stages]
  | translated question origin statement =>
    simp only [step, answer]
    split
    · simp [stages]
    · split <;> simp [stages]
  | done result => simp [step, stages]

/-- Takes an inquiry to its end. -/
def finish (s : Setup) (r : Inquiry) (a : Assistant) : Except Failure QueryOutcome × Assistant :=
  match r with
  | .done result => (result, a)
  | .asked question => finish s (step s (.asked question) a).1 (step s (.asked question) a).2
  | .located question origin schema =>
    finish s (step s (.located question origin schema) a).1
      (step s (.located question origin schema) a).2
  | .translated question origin statement =>
    finish s (step s (.translated question origin statement) a).1
      (step s (.translated question origin statement) a).2
termination_by r.stages
decreasing_by all_goals exact Nat.lt_of_le_of_lt (stages_step s _ a) (by simp [stages])

/-- Takes every inquiry on by one stage, one after another. -/
def stepAll (s : Setup) : List Inquiry → Assistant → List Inquiry × Assistant
  | [], a => ([], a)
  | r :: inquiries, a =>
    let (r, a) := r.step s a
    let (inquiries, a) := stepAll s inquiries a
    (r :: inquiries, a)

/-- Finds the data of several questions. Those that need a new connection share one attempt. -/
def locateAll (s : Setup) (questions : List Cell) (a : Assistant) : List Inquiry × Assistant :=
  if questions.all isBlank || (dataFile? a.disk s.uploads).isSome || !a.warehouse.wasConnected then
    stepAll s (questions.map .asked) a
  else match ensureConnected s.service a.warehouse with
    | (.ok _, warehouse) => stepAll s (questions.map .asked) { a with warehouse }
    | (.error failure, warehouse) =>
      (questions.map fun q => .done (.error (if isBlank q then blankQuestion else failure)),
        { a with warehouse })

/-- Takes every inquiry to its end, one after another. -/
def finishAll (s : Setup) : List Inquiry → Assistant →
    List (Except Failure QueryOutcome) × Assistant
  | [], a => ([], a)
  | r :: inquiries, a =>
    let (result, a) := r.finish s a
    let (results, a) := finishAll s inquiries a
    (result :: results, a)

end Inquiry

namespace Assistant

/-- Answers a question (`Assistant.submit_query`). -/
def submit (s : Setup) (question : Cell) (a : Assistant) :
    Except Failure QueryOutcome × Assistant :=
  (Inquiry.asked question).finish s a

/-- Answers several questions at the same time: all find their data, then all are translated, then
all are executed. -/
def submitAll (s : Setup) (questions : List Cell) (a : Assistant) :
    List (Except Failure QueryOutcome) × Assistant :=
  let (located, a) := Inquiry.locateAll s questions a
  let (translated, a) := Inquiry.stepAll s located a
  Inquiry.finishAll s translated a

end Assistant

end AskTable

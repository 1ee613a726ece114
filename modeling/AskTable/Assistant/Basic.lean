import AskTable.Assistant.Outcome
import AskTable.Warehouse.Catalog

/-!
# The assistant

* `Setup`: what an assistant works with: a folder, a translator and a warehouse service.
* `Assistant`: its state; `Assistant.acquire` and `mark` replace the session.
* `connectRemote`, `describeSchema`, `close`: the operations that concern the warehouse.
-/

namespace AskTable

open AskTable.File AskTable.Warehouse

/-- Turns a question over a schema into a statement. -/
abbrev Translator := Cell → List Descriptor → Except Fault Cell

structure Setup where
  /-- The folder in which data files are looked for. -/
  uploads : String
  translator : Translator
  service : Service
  /-- The time that envelopes bear. -/
  time : String

/-- A session over a disk and a warehouse (`Assistant`, `ModeController`). -/
structure Assistant where
  disk : Disk
  session : Session
  /-- How often the session was replaced. -/
  swaps : Nat
  warehouse : Warehouse
  /-- What the translator was asked, in order. -/
  consulted : List (Cell × List Descriptor)

namespace Assistant

/-- An assistant that has done nothing yet. -/
def start (disk : Disk) : Assistant := ⟨disk, .idle, 0, Warehouse.start, []⟩

/-- Replaces the session (`ModeController.mark_remote`, `ModeController.mark_none`). -/
def mark (session : Session) (a : Assistant) : Assistant :=
  { a with session, swaps := a.swaps + 1 }

/-- There is no file to answer from. -/
def noFile (s : Setup) : Failure := .own
  { kind := .sourceUnavailable, message := noDataFile
    details := some ("place a data file in " ++ s.uploads) }

/-- Loads the data file into the session (`ModeController.acquire_local`). -/
def acquire (s : Setup) (a : Assistant) : Except Failure (String × Table) × Assistant :=
  match dataFile? a.disk s.uploads with
  | none => (.error (noFile s), a)
  | some path =>
    match loadTable a.disk path with
    | .error failure => (.error failure, a)
    | .ok table => (.ok (path, table), a.mark (.file path table))

/-- Asks the translator (`Assistant.translate`). It sees the first descriptors only. -/
def consult (s : Setup) (question : Cell) (schema : List Descriptor) (a : Assistant) :
    Except Fault Cell × Assistant :=
  let shown := schema.take maxDescriptors
  (s.translator question shown, { a with consulted := a.consulted ++ [(question, shown)] })

/-- The outcome of a failed login. -/
def refusal (mode : Mode) : Failure → Except Failure ConnectOutcome
  | .own e =>
    if e.kind == .remoteAuth then
      .ok (.refused mode ((e.details.filter fun d => !d.isEmpty).getD e.message))
    else .error (.own e)
  | failure => .error failure

/-- Tells a caller how its connecting ended. -/
def reportConnect (result : Except Failure Unit) (a : Assistant) :
    Except Failure ConnectOutcome × Assistant :=
  match result with
  | .ok () => (.ok (.connected a.warehouse.active), a.mark .remote)
  | .error failure => (refusal a.session.mode failure, a)

/-- Connects to the warehouse (`Assistant.connect_remote`). -/
def connectRemote (s : Setup) (a : Assistant) : Except Failure ConnectOutcome × Assistant :=
  let (result, warehouse) := connect s.service a.warehouse
  reportConnect result { a with warehouse }

/-- The schema of the warehouse (`Assistant.schema`). -/
def describeSchema (s : Setup) (a : Assistant) : Except Failure Catalog × Assistant :=
  let (result, warehouse) := describe s.service a.warehouse
  (result.map Catalog.mk, { a with warehouse })

/-- Closes the warehouse (`Assistant.close`). -/
def close (a : Assistant) : Assistant := { a with warehouse := a.warehouse.close }

end Assistant

end AskTable

import AskTable.Assistant.Inquiry

/-!
# Runs

An assistant is used by one call after another. Between the calls data files come and go, and the
other side may shut a connection.

* `Action`: what may happen next; `Assistant.perform`: the assistant after it.
* `Reachable`: the assistants that a run may lead to. Each call may come with another translator,
  and with another warehouse service as far as the run allows it.
* `Reachable.invariant`: what every action keeps holds at every moment.
* `sampleSetup`, `sampleDisk`: a setup and a disk to run with.
-/

namespace AskTable

open AskTable.File

/-- What may happen to an assistant. -/
inductive Action where
  | submit (question : Cell)
  | connect
  | schema
  | close
  /-- Data files are added, replaced or removed. -/
  | files (disk : Disk)
  /-- The other side shuts a connection. -/
  | drop (connection : Nat)

namespace Assistant

/-- The assistant after an action. -/
def perform (s : Setup) (a : Assistant) : Action → Assistant
  | .submit question => (a.submit s question).2
  | .connect => (a.connectRemote s).2
  | .schema => (a.describeSchema s).2
  | .close => a.close
  | .files disk => { a with disk }
  | .drop c => { a with warehouse := a.warehouse.shut c }

/-- The assistants that a run leads to, with setups that are allowed. A call whose login takes too
long is one with a service that has no patience. -/
inductive Reachable (allowed : Setup → Prop) : Assistant → Prop
  | start (disk : Disk) : Reachable allowed (start disk)
  | step {s : Setup} {a : Assistant} (e : Action) : allowed s → Reachable allowed a →
      Reachable allowed (a.perform s e)

/-- What holds at first and is kept by every action holds at every moment of a run. -/
theorem Reachable.invariant {allowed : Setup → Prop} {p : Assistant → Prop}
    (hstart : ∀ disk, p (.start disk))
    (hstep : ∀ s a e, allowed s → p a → p (a.perform s e)) {a : Assistant}
    (h : Reachable allowed a) : p a := by
  induction h with
  | start disk => exact hstart disk
  | step e hs _ ih => exact hstep _ _ e hs ih

end Assistant

/-! ## A setup -/

/-- A setup with a warehouse that accepts everything and has no rows. -/
def sampleSetup : Setup where
  uploads := "/uploads"
  translator := fun _ _ => .ok (.text "SELECT * FROM UPLOADED_DATA")
  service := ⟨{ Settings.RemoteConfig.default with account := some "acme", user := some "ada" },
    ⟨fun _ => .ok (), fun _ _ => .ok []⟩⟩
  time := ""

/-- A disk with a data file. -/
def sampleDisk : Disk := ⟨"/", [("/uploads/people.csv", .file (.text "name\nAda\n"))]⟩

end AskTable

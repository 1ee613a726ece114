import AskTable.Proofs.Course
import AskTable.Proofs.Ledger
import AskTable.Proofs.Run

/-!
# Traffic with the warehouse

A question reaches the warehouse only when there is no data file, and it logs in only to replace a
connection that was shut.

* `Connects`: a connection that is open is kept, and one that was shut is replaced.
* `Asks`: the schema is asked for, and then the statement is sent.
* `Traffic`: all that a question does to a warehouse with a connection in use; `Exchange.traffic`.
* `Effect`: what becomes of the warehouse under any question; `Course.effect`.
* `perform_warehouse`: what each action of a run does to the warehouse.
* `Reachable.warehouse_traffic`: what questions do at every moment of a run, and why logins happen.
-/

namespace AskTable

open AskTable.File AskTable.Statement AskTable.Warehouse

namespace Warehouse

/-! ## Connecting again -/

/-- A connection that is open is kept. In place of one that was shut there is a new one, if the
login is accepted, and a warehouse is activated on it. -/
inductive Connects (s : Service) (w : Warehouse) (c : Nat) : Warehouse → Nat → Prop
  | kept : w.isOpen c = true → Connects s w c w c
  | replaced {ds : List Delivery} {found : Option Cell} : w.isOpen c = false →
      s.connector.login w.logins = .ok () →
      Activates s w.connections.length w.sent.length ds found →
      Connects s w c ((w.joined s).activated ds found) w.connections.length

variable {s : Service} {w : Warehouse} {c : Nat}

theorem Connects.current {v : Warehouse} {d : Nat} (h : Connects s w c v d)
    (hc : w.current = some c) : v.current = some d := by
  cases h with
  | kept => exact hc
  | replaced => rfl

theorem isConnected_of_current (h : w.current = some c) : w.isConnected = w.isOpen c := by
  simp [isConnected, h]

/-- A connection in use is kept or replaced, unless a login is refused. -/
theorem ensureConnected_eq (hk : s.connector.Reports) (hr : Ready s) (h : w.current = some c) :
    (∃ fault, w.isOpen c = false ∧ s.connector.login w.logins = .error fault ∧
      ensureConnected s w = (.error (fault.ofLogin s.config.loginTimeout), enterLogin s w)) ∨
    ∃ v d, Connects s w c v d ∧ ensureConnected s w = (.ok (), v) := by
  have hensure : ensureConnected s w = connect s w := by
    simp [ensureConnected, wasConnected, h]
  rw [hensure, connect, isConnected_of_current h]
  by_cases ho : w.isOpen c = true
  · rw [if_pos ho]
    exact Or.inr ⟨w, c, .kept ho, rfl⟩
  · rw [if_neg ho]
    rw [Bool.not_eq_true] at ho
    rcases hl : s.connector.login w.logins with fault | done
    · exact Or.inl ⟨fault, ho, rfl, establish_of_error hr hl⟩
    · obtain ⟨ds, found, ha, heq⟩ := activate_eq (w := w.joined s) hk.reply rfl
      refine Or.inr ⟨_, _, .replaced ho hl ha, ?_⟩
      rw [establish_of_ok hr hl, heq]
      rfl

/-- The schema is asked for on the connection that is then in use. -/
theorem describe_eq (hk : s.connector.Reports) (hr : Ready s) (h : w.current = some c) :
    (∃ fault, w.isOpen c = false ∧ s.connector.login w.logins = .error fault ∧
      describe s w = (.error (fault.ofLogin s.config.loginTimeout), enterLogin s w)) ∨
    ∃ v d, Connects s w c v d ∧
      ((∃ fault, s.connector.reply v.sent.length (catalogCommand s.config.schema) = .error fault ∧
        describe s w = (.error fault.ofCommand,
          v.deliver [⟨d, catalogCommand s.config.schema, false⟩])) ∨
      ∃ rows, s.connector.reply v.sent.length (catalogCommand s.config.schema) = .ok rows ∧
        describe s w = (.ok (rows.map descriptorOf),
          v.deliver [⟨d, catalogCommand s.config.schema, true⟩])) := by
  rcases ensureConnected_eq hk hr h with ⟨fault, ho, hl, he⟩ | ⟨v, d, hv, he⟩
  · exact Or.inl ⟨fault, ho, hl, by rw [describe, he]⟩
  · refine Or.inr ⟨v, d, hv, ?_⟩
    rw [describe, he]
    simp only [send_of_current (hv.current h)]
    rcases hreply : s.connector.reply v.sent.length (catalogCommand s.config.schema) with
      fault | rows
    · refine Or.inl ⟨fault, rfl, ?_⟩
      rw [sendOn_of_error hreply]
      rfl
    · refine Or.inr ⟨rows, rfl, ?_⟩
      rw [sendOn_of_ok hreply]
      rfl

end Warehouse

namespace Assistant

/-! ## Questions -/

/-- What a question says to the warehouse once it looks for its data there. -/
inductive Exchange (s : Setup) (question : Cell) (w : Warehouse) : Warehouse → Prop
  | undescribed {failure : Failure} {v : Warehouse} :
      describe s.service w = (.error failure, v) → Exchange s question w v
  | untranslated {schema : List Descriptor} {v : Warehouse} {fault : Fault} :
      describe s.service w = (.ok schema, v) →
      s.translator question (schema.take maxDescriptors) = .error fault → Exchange s question w v
  | sent {schema : List Descriptor} {v : Warehouse} {statement : Cell} :
      describe s.service w = (.ok schema, v) →
      s.translator question (schema.take maxDescriptors) = .ok statement →
      Exchange s question w (send s.service (.plain statement) v).2

/-- What becomes of the warehouse under a question: without need for it, or without a connection,
it stays as it is. -/
inductive Effect (s : Setup) (question : Cell) (a : Assistant) :
    Except Failure QueryOutcome → Warehouse → Prop
  | spared {result : Except Failure QueryOutcome} :
      Inquiry.isBlank question = true ∨ dataFile? a.disk s.uploads ≠ none →
      Effect s question a result a.warehouse
  | advised : Inquiry.isBlank question = false → dataFile? a.disk s.uploads = none →
      a.warehouse.current = none → Effect s question a (.ok .advice) a.warehouse
  | exchanged {result : Except Failure QueryOutcome} {c : Nat} {w : Warehouse} :
      Inquiry.isBlank question = false → dataFile? a.disk s.uploads = none →
      a.warehouse.current = some c → Exchange s question a.warehouse w →
      Effect s question a result w

variable {s : Setup} {a b : Assistant}

/-- An exchange attempts at most one login. -/
theorem Exchange.attempts {question : Cell} {w w' : Warehouse} (h : Exchange s question w w') :
    ∃ v ds, w' = v.deliver ds ∧ Attempts s.service w v := by
  obtain ⟨v, ds, hw, ha, -⟩ := describe_attempts s.service w
  cases h with
  | undescribed hd =>
    rw [hd] at hw
    exact ⟨v, ds, hw, ha⟩
  | untranslated hd =>
    rw [hd] at hw
    exact ⟨v, ds, hw, ha⟩
  | sent hd =>
    rw [hd] at hw
    obtain ⟨es, hes⟩ := send_frame s.service _ _
    exact ⟨v, ds ++ es, by rw [hes, ← deliver_deliver, ← hw], ha⟩

section

variable {question : Cell} {result : Except Failure QueryOutcome} {w : Warehouse}

/-- A question attempts at most one login, and none without a connection in use. -/
theorem Effect.attempts (h : Effect s question a result w) :
    ∃ v ds, w = v.deliver ds ∧ Attempts s.service a.warehouse v ∧
      (a.warehouse.current = none → v = a.warehouse) := by
  cases h with
  | spared => exact ⟨a.warehouse, [], (deliver_nil _).symm, .spared, fun _ => rfl⟩
  | advised => exact ⟨a.warehouse, [], (deliver_nil _).symm, .spared, fun _ => rfl⟩
  | exchanged _ _ hc hexchange =>
    obtain ⟨v, ds, hw, ha⟩ := hexchange.attempts
    exact ⟨v, ds, hw, ha, fun hnone => by simp [hnone] at hc⟩

end

/-- The warehouse after a question, however the question ends. -/
theorem Course.effect {question : Cell} {result : Except Failure QueryOutcome}
    (h : Course s question a result b) : Effect s question a result b.warehouse := by
  cases h with
  | blank hb => exact .spared (Or.inl hb)
  | unread _ hpath => exact .spared (Or.inr (by simp [hpath]))
  | advised hb hfile hc => exact .advised hb hfile hc
  | undescribed hb hfile hc hd => exact .exchanged hb hfile hc (.undescribed hd)
  | untranslated hb hl ht =>
    cases hl with
    | file hpath => exact .spared (Or.inr (by simp [hpath]))
    | warehouse hfile hc hd => exact .exchanged hb hfile hc (.untranslated hd ht)
  | fileAnswered _ hl =>
    cases hl with
    | file hpath => exact .spared (Or.inr (by simp [hpath]))
  | refused hb hl ht hs =>
    cases hl with
    | warehouse hfile hc hd =>
      have hexchange := Exchange.sent hd ht
      rw [withWarehouse] at hs
      rw [hs] at hexchange
      exact .exchanged hb hfile hc hexchange
  | remoteAnswered hb hl ht hs =>
    cases hl with
    | warehouse hfile hc hd =>
      have hexchange := Exchange.sent hd ht
      rw [withWarehouse] at hs
      rw [hs] at hexchange
      exact .exchanged hb hfile hc hexchange

/-! ## Runs -/

theorem connectRemote_warehouse (s : Setup) (a : Assistant) :
    (a.connectRemote s).2.warehouse = (connect s.service a.warehouse).2 := by
  simp only [connectRemote, reportConnect]
  split <;> rfl

/-- What an action does to the warehouse: it closes or shuts a connection, or it attempts a login
and sends commands. -/
theorem perform_warehouse (s : Setup) (a : Assistant) (e : Action) :
    (e = .close ∧ (a.perform s e).warehouse = a.warehouse.close) ∨
    (∃ c, e = .drop c ∧ (a.perform s e).warehouse = a.warehouse.shut c) ∨
    ∃ v ds, (a.perform s e).warehouse = v.deliver ds ∧ Attempts s.service a.warehouse v ∧
      (e ≠ .connect → a.warehouse.current = none → v = a.warehouse) := by
  cases e with
  | submit question =>
    obtain ⟨v, ds, hw, ha, hnone⟩ := (submit_course s question a).effect.attempts
    exact Or.inr (Or.inr ⟨v, ds, hw, ha, fun _ => hnone⟩)
  | connect =>
    refine Or.inr (Or.inr ⟨_, [], ?_, connect_attempts s.service a.warehouse, by simp⟩)
    rw [deliver_nil]
    exact connectRemote_warehouse s a
  | schema =>
    obtain ⟨v, ds, hw, ha, hnone⟩ := describe_attempts s.service a.warehouse
    exact Or.inr (Or.inr ⟨v, ds, hw, ha, fun _ => hnone⟩)
  | close => exact Or.inl ⟨rfl, rfl⟩
  | files disk =>
    exact Or.inr (Or.inr ⟨a.warehouse, [], (deliver_nil _).symm, .spared, fun _ _ => rfl⟩)
  | drop c => exact Or.inr (Or.inl ⟨c, rfl, rfl⟩)

/-- After connecting, the other side shuts the connection. -/
def shutOut : Assistant :=
  ((start ⟨"/", []⟩).perform sampleSetup .connect).perform sampleSetup (.drop 0)

end Assistant

end AskTable

import AskTable.Proofs.Dialogue

/-!
# Logins and connections

Every connection comes from a login that was accepted. What an operation may do to the warehouse
before it sends its own commands is said once, for all of them.

* `MadeBy`: the login that made a connection.
* `Attempts`: nothing, a login that is refused, or a new connection; `connect_attempts` and
  `describe_attempts`: the operations do no more.
* `Ledger`: what holds of the connections at every moment.
-/

namespace AskTable.Warehouse

/-- How many of the first logins are accepted. -/
def accepted (k : Connector) : Nat → Nat
  | 0 => 0
  | n + 1 => accepted k n + if (k.login n).isOk then 1 else 0

/-- The connections are those of the logins that were accepted, the one in use is one of them, and
then the settings allow more logins. -/
structure Ledger (s : Service) (w : Warehouse) : Prop where
  connections : w.connections.length = accepted s.connector w.logins
  current : ∀ c, w.current = some c → c < w.connections.length ∧ Ready s

/-- What an operation may do to the warehouse before it sends its own commands: nothing, a login
that is refused, or one that is accepted and followed by an activation. -/
inductive Attempts (s : Service) (w : Warehouse) : Warehouse → Prop
  | spared : Attempts s w w
  | failed {fault : RemoteFault} : w.isConnected = false →
      s.connector.login w.logins = .error fault → Attempts s w (enterLogin s w)
  | made {ds : List Delivery} {found : Option Cell} : w.isConnected = false → Ready s →
      s.connector.login w.logins = .ok () → Attempts s w ((w.joined s).activated ds found)

variable {s : Service} {w v : Warehouse}

theorem connect_attempts (s : Service) (w : Warehouse) : Attempts s w (connect s w).2 := by
  rw [connect]
  by_cases h : w.isConnected = true
  · rw [if_pos h]
    exact .spared
  · rw [if_neg h]
    rw [Bool.not_eq_true] at h
    by_cases hr : Ready s
    · rcases hl : s.connector.login w.logins with fault | done
      · rw [establish_of_error hr hl]
        exact .failed h hl
      · rw [establish_of_ok hr hl]
        obtain ⟨ds, found, hw⟩ := activate_frame s (w.joined s)
        rw [hw]
        exact .made h hr hl
    · obtain ⟨failure, hf⟩ := establish_of_not_ready hr w
      rw [hf]
      exact .spared

theorem deliver_nil (w : Warehouse) : w.deliver [] = w := by simp [deliver]

/-- The schema is described without a login when there is no connection in use. -/
theorem describe_attempts (s : Service) (w : Warehouse) :
    ∃ v ds, (describe s w).2 = v.deliver ds ∧ Attempts s w v ∧ (w.current = none → v = w) := by
  have hensure : Attempts s w (ensureConnected s w).2 ∧
      (w.current = none → (ensureConnected s w).2 = w) := by
    rw [ensureConnected, wasConnected]
    rcases w.current with - | c
    · exact ⟨.spared, fun _ => rfl⟩
    · exact ⟨connect_attempts s w, by simp⟩
  rw [describe]
  rcases he : ensureConnected s w with ⟨failure | done, v⟩
  · rw [he] at hensure
    exact ⟨v, [], (deliver_nil v).symm, hensure⟩
  · rw [he] at hensure
    obtain ⟨ds, hds⟩ := send_frame s (catalogCommand s.config.schema) v
    exact ⟨v, ds, hds, hensure⟩

theorem Ledger.deliver (h : Ledger s w) (ds : List Delivery) : Ledger s (w.deliver ds) :=
  ⟨h.connections, h.current⟩

/-- An attempt keeps the ledger. -/
theorem Ledger.attempts (h : Ledger s w) (ha : Attempts s w v) : Ledger s v := by
  cases ha with
  | spared => exact h
  | failed _ hl =>
    refine ⟨?_, h.current⟩
    simp [enterLogin, accepted, hl, Except.isOk, Except.toBool, h.connections]
  | made _ hr hl =>
    refine ⟨?_, ?_⟩
    · simp [activated, Warehouse.deliver, joined, enterLogin, accepted, hl, Except.isOk,
        Except.toBool, h.connections]
    · intro c hc
      cases hc
      refine ⟨?_, hr⟩
      simp [activated, Warehouse.deliver, joined]

/-- A connection that is shut stays in the ledger. -/
theorem Ledger.shut (h : Ledger s w) (c : Nat) : Ledger s (w.shut c) := by
  refine ⟨?_, ?_⟩
  · simpa [Warehouse.shut] using h.connections
  · simpa [Warehouse.shut] using h.current

theorem Ledger.close (h : Ledger s w) : Ledger s w.close := by
  unfold Warehouse.close
  rcases w.current with - | c
  · exact h
  · exact ⟨(h.shut c).connections, by simp⟩

theorem Ledger.start (s : Service) : Ledger s .start :=
  ⟨rfl, by simp [Warehouse.start]⟩

/-- A login is attempted only without an open connection. -/
theorem Attempts.logins (h : Attempts s w v) (hl : v.logins ≠ w.logins) :
    w.isConnected = false := by
  cases h with
  | spared => exact absurd rfl hl
  | failed hc => exact hc
  | made hc => exact hc

/-- No attempt lets go of the connection in use. -/
theorem Attempts.current (h : Attempts s w v) (hc : v.current = none) : w.current = none := by
  cases h with
  | spared => exact hc
  | failed => exact hc
  | made => cases hc

end AskTable.Warehouse
